import Lexis.Proofs.Grammar.Kinds

namespace Lexis

/-!
How far the rules of a grammar look ahead.

A lexeme is told from its own characters and a few behind it.  So if enough of
the text is left behind a lexeme, in particular another string or comment, then
the lexeme stays the same when the text becomes longer.  Unlike for whole lines,
the text may go on within its line.
-/

namespace Cut

/-- What the rule takes is settled once so many characters are left behind it. -/
structure LooksAhead (number : Nat) (rule : Text -> Cut) : Prop where
  append : forall {text : Text} (more : Text), number ≤ (rule text).rest.length ->
    rule (text ++ more) = (rule text).extend more

theorem LooksAhead.mono {first second : Nat} {rule : Text -> Cut}
    (looksAhead : LooksAhead first rule) (le : first ≤ second) : LooksAhead second rule where
  append more enough := looksAhead.append more (Nat.le_trans le enough)

theorem looksAhead_stop : LooksAhead 0 stop where
  append _ _ := rfl

theorem looksAhead_run (inClass : Char -> Bool) : LooksAhead 1 (run inClass) where
  append {text} more enough := by
    have left : text.dropWhile inClass ≠ [] := List.ne_nil_of_length_pos enough
    have notAll : (text.takeWhile inClass).length ≠ text.length := by
      intro same
      have parts : (text.takeWhile inClass ++ text.dropWhile inClass).length = text.length :=
        congrArg List.length List.takeWhile_append_dropWhile
      rw [List.length_append, same] at parts
      exact left (List.eq_nil_of_length_eq_zero (by omega))
    have some : (text.dropWhile inClass).isEmpty = false := by simpa using left
    simp [run, extend, List.takeWhile_append, List.dropWhile_append, notAll, some]

end Cut

namespace Numeral

/-- A point needs the character behind it, and nothing else more than the next one. -/
theorem looksAhead_decimal (hasFraction hasExponent : Bool) :
    Cut.LooksAhead 2 (decimal hasFraction hasExponent) where
  append {text} more enough := by
    fun_induction decimal hasFraction hasExponent text with
    | case1 => exact absurd enough (by simp [Cut.stop])
    | case2 hasFraction hasExponent head tail digit ih =>
        rw [List.cons_append, decimal.eq_def]
        simp only [if_pos digit, ih enough, Cut.extend_push]
    | case3 hasFraction hasExponent head tail notDigit point ih =>
        have sameHead : (tail ++ more).head? = tail.head? := by
          cases tail with
          | nil => exact absurd point (by simp)
          | cons next tail => rfl
        rw [List.cons_append, decimal.eq_def]
        simp only [if_neg notDigit, sameHead, if_pos point, ih enough, Cut.extend_push]
    | case4 => exact absurd enough (by simp [Cut.stop, Cut.push])
    | case5 hasFraction hasExponent head notDigit mark sign rest isSigned notPoint ih =>
        rw [List.cons_append, List.cons_append, decimal.eq_def]
        simp only [List.head?_cons] at notPoint ⊢
        simp only [if_neg notDigit, if_neg notPoint, if_pos mark, if_pos isSigned, ih enough,
          Cut.extend_push]
    | case6 hasFraction hasExponent head notDigit mark sign rest notSigned notPoint ih =>
        have behind := ih enough
        rw [List.cons_append] at behind ⊢
        rw [List.cons_append, decimal.eq_def]
        simp only [List.head?_cons] at notPoint ⊢
        simp only [if_neg notDigit, if_neg notPoint, if_pos mark, if_neg notSigned, behind,
          Cut.extend_push]
    | case7 hasFraction hasExponent head tail notDigit notPoint notMark =>
        have sameHead : (tail ++ more).head? = tail.head? := by
          cases tail with
          | nil => exact absurd enough (by simp [Cut.stop])
          | cons next tail => rfl
        rw [List.cons_append, decimal.eq_def]
        simp only [if_neg notDigit, sameHead, if_neg notPoint, if_neg notMark, Cut.extend_stop,
          List.cons_append]

theorem looksAhead_cut (octal : Bool) (head : Char) : Cut.LooksAhead 2 (cut octal head) where
  append {text} more enough := by
    cases text with
    | nil => exact absurd enough (by simp [cut, Cut.stop])
    | cons mark rest =>
        cases isBase : if head == '0' then base? octal mark else none with
        | some base =>
            simp only [cut, isBase] at enough
            simp only [cut, List.cons_append, isBase, Cut.extend_push,
              (Cut.looksAhead_run _).append more (Nat.le_of_succ_le enough)]
        | none =>
            simp only [cut, isBase] at enough
            simp only [cut, List.cons_append, isBase]
            exact (looksAhead_decimal _ _).append more enough

end Numeral

/-! ## Texts with an opener in them -/

/-- The characters that the openers of strings and of comments with closers begin with. -/
def constructMarks : List Char :=
  ['"', '\'', '`', '/', '<']

namespace Text

/-- A string or comment may begin in the text, and it would not be all of it that is left. -/
def HoldsOpener (text : Text) : Prop :=
  exists front mark back, text = front ++ mark :: back ∧ mark ∈ constructMarks ∧ back ≠ []

variable {text : Text}

theorem HoldsOpener.behind (holds : text.HoldsOpener) (front : Text) :
    HoldsOpener (front ++ text) := by
  rcases holds with ⟨first, mark, back, rfl, isMark, present⟩
  exact ⟨front ++ first, mark, back, (List.append_assoc _ _ _).symm, isMark, present⟩

theorem HoldsOpener.two_le_length (holds : text.HoldsOpener) : 2 ≤ text.length := by
  rcases holds with ⟨front, mark, back, rfl, -, present⟩
  have := List.length_pos_iff.mpr present
  rw [List.length_append, List.length_cons]
  omega

theorem HoldsOpener.head?_append (holds : text.HoldsOpener) (more : Text) :
    List.head? (text ++ more) = text.head? := by
  cases text with
  | nil => exact absurd holds.two_le_length (by simp)
  | cons head tail => rfl

/-- A word without such characters behind its first is told without regard to what follows. -/
theorem HoldsOpener.opensWith_append (holds : text.HoldsOpener) (head : Char) (more : Text)
    {word : Text} (free : constructMarks.all (fun mark => !word.tail.contains mark) = true) :
    opensWith word (head :: (text ++ more)) = opensWith word (head :: text) := by
  rw [← List.cons_append]
  apply opensWith_append_of_prefix
  rintro ⟨missing, rfl⟩
  rcases holds with ⟨front, mark, back, rfl, isMark, -⟩
  have notInWord := List.all_eq_true.mp free mark isMark
  exact absurd notInWord (by simp)

end Text

namespace Grammar

variable {grammar : Grammar} {inTag : Bool} {head : Char} {tail : Text}

/-! ## Kinds of lexemes before an opener -/

/-- The kind of a lexeme outside of tags is told before an opener that follows it. -/
theorem opening_append_of_holds (noTags : grammar.features.tags = false) (more : Text)
    (holds : tail.HoldsOpener)
    (lineEnds : Text.opensWith ['/', '/'] (head :: tail) = true ->
      exists character, character ∈ tail ∧ isLineBreak character = true) :
    grammar.opening false head (tail ++ more) = grammar.opening false head tail := by
  have long : 3 ≤ (head :: tail).length := Nat.succ_le_succ holds.two_le_length
  have told : forall word : Text, word.length ≤ 3 ->
      Text.opensWith word (head :: (tail ++ more)) = Text.opensWith word (head :: tail) :=
    fun word short => Text.opensWith_append_of_length more (Nat.le_trans short long)
  cases slashes : Text.opensWith ['/', '/'] (head :: tail) with
  | true =>
      rcases lineEnds slashes with ⟨character, member, breaks⟩
      have fourSlashes : Text.opensWith ['/', '/', '/', '/'] (head :: (tail ++ more)) =
          Text.opensWith ['/', '/', '/', '/'] (head :: tail) := by
        rw [← List.cons_append]
        apply Text.opensWith_append_of_prefix
        rintro ⟨missing, same⟩
        have inSlashes : character ∈ ['/', '/', '/', '/'] := by
          rw [← same]
          exact List.mem_append_left _ (List.mem_cons_of_mem head member)
        simp only [List.mem_cons, List.not_mem_nil, or_false, or_self] at inSlashes
        rw [inSlashes] at breaks
        exact absurd breaks (by decide)
      have documentation : isDocComment (head :: (tail ++ more)) = isDocComment (head :: tail) := by
        simp (disch := decide) only [isDocComment, told, fourSlashes]
      rcases List.isPrefixOf_iff_prefix.mp slashes with ⟨rest, same⟩
      rcases List.cons.inj same with ⟨rfl, sameTail⟩
      subst sameTail
      have now := opening_of_slashes grammar false rest
      have longer := opening_of_slashes grammar false (rest ++ more)
      exact longer.trans ((congrArg
        (fun isDoc => Opening.lineComment (grammar.features.docComments && isDoc))
        documentation).trans now.symm)
  | false =>
      have slashesLonger : Text.opensWith ['/', '/'] (head :: (tail ++ more)) = false := by
        rw [told _ (by decide), slashes]
      have directive : grammar.atDirective (head :: (tail ++ more)) =
          grammar.atDirective (head :: tail) := by
        simp (disch := decide) only [atDirective, directives, List.any_cons, List.any_nil,
          holds.opensWith_append]
      have tripled : grammar.features.opensTripled head (head :: (tail ++ more)) =
          grammar.features.opensTripled head (head :: tail) := by
        simp only [Features.opensTripled, told _ (Nat.le_of_eq (Body.length_tripled head))]
      have markup : Text.opensWith ['<', '!', '-', '-'] (head :: (tail ++ more)) =
          Text.opensWith ['<', '!', '-', '-'] (head :: tail) :=
        holds.opensWith_append head more (by decide)
      have noCloser : forall text, grammar.tagCloser? false text = none := by
        intro text
        simp [tagCloser?]
      simp only [opening, slashes, slashesLonger, told ['/', '*'] (by decide), directive, markup,
        noTags, tripled, noCloser, holds.head?_append more, Bool.false_and, Bool.false_eq_true,
        if_false]

end Grammar
end Lexis
