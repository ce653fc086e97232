import Lexis.Grammar.Scan
import Lexis.Proofs.Cut

namespace Lexis

/-!
The line rules of a grammar.

Numbers, words, operators, the names of tags and what begins a lexeme are all
decided within a line.  For operators that is true only of grammars whose
operator characters do not include the line feed.
-/

namespace Numeral

theorem ne_feed_of_digit {head : Char} (digit : (isDigit head || head == '_') = true) :
    head ≠ '\n' := by
  rintro rfl
  exact absurd digit (by decide)

theorem ne_feed_of_exponentMark {head : Char} {hasExponent : Bool}
    (mark : (isExponentMark head && !hasExponent) = true) : head ≠ '\n' := by
  rintro rfl
  cases hasExponent <;> exact absurd mark (by decide)

theorem ne_feed_of_sign {sign : Char} (isSigned : isSign sign = true) : sign ≠ '\n' := by
  rintro rfl
  exact absurd isSigned (by decide)

theorem ne_feed_of_point {head : Char} {others : Bool}
    (point : (head == '.' && others) = true) : head ≠ '\n' := by
  rintro rfl
  exact absurd point (by simp)

theorem noFeed_decimal (hasFraction hasExponent : Bool) (text : Text) :
    '\n' ∉ (decimal hasFraction hasExponent text).taken := by
  fun_induction decimal hasFraction hasExponent text with
  | case1 => simp [Cut.stop]
  | case2 _ _ head tail digit ih => exact Cut.noFeed_push (ne_feed_of_digit digit) ih
  | case3 _ _ head tail _ point ih =>
      simp only [Bool.and_assoc] at point
      exact Cut.noFeed_push (ne_feed_of_point point) ih
  | case4 _ _ head _ mark =>
      exact Cut.noFeed_push (ne_feed_of_exponentMark mark) (by simp [Cut.stop])
  | case5 _ _ head _ mark sign rest isSigned _ ih =>
      exact Cut.noFeed_push (ne_feed_of_exponentMark mark)
        (Cut.noFeed_push (ne_feed_of_sign isSigned) ih)
  | case6 _ _ head _ mark sign rest _ _ ih =>
      exact Cut.noFeed_push (ne_feed_of_exponentMark mark) ih
  | case7 => simp [Cut.stop]

theorem decimal_append (hasFraction hasExponent : Bool) {text : Text} (more : Text)
    (feed : '\n' ∈ text) :
    decimal hasFraction hasExponent (text ++ more) =
      (decimal hasFraction hasExponent text).extend more := by
  fun_induction decimal hasFraction hasExponent text with
  | case1 => exact absurd feed (by simp)
  | case2 hasFraction hasExponent head tail digit ih =>
      have inTail := (List.mem_cons.mp feed).resolve_left (Ne.symm (ne_feed_of_digit digit))
      rw [List.cons_append, decimal.eq_def]
      simp only [if_pos digit, ih inTail, Cut.extend_push]
  | case3 hasFraction hasExponent head tail notDigit point ih =>
      have isPoint := point
      simp only [Bool.and_assoc] at isPoint
      have inTail := (List.mem_cons.mp feed).resolve_left (Ne.symm (ne_feed_of_point isPoint))
      have sameHead := Text.head?_append_of_feed more inTail
      rw [List.cons_append, decimal.eq_def]
      simp only [if_neg notDigit, sameHead, if_pos point, ih inTail, Cut.extend_push]
  | case4 _ _ head _ mark =>
      exact absurd ((List.mem_cons.mp feed).resolve_left (Ne.symm (ne_feed_of_exponentMark mark)))
        (by simp)
  | case5 hasFraction hasExponent head notDigit mark sign rest isSigned notPoint ih =>
      have inTail := (List.mem_cons.mp feed).resolve_left (Ne.symm (ne_feed_of_exponentMark mark))
      have inRest := (List.mem_cons.mp inTail).resolve_left (Ne.symm (ne_feed_of_sign isSigned))
      rw [List.cons_append, List.cons_append, decimal.eq_def]
      simp only [List.head?_cons] at notPoint ⊢
      simp only [if_neg notDigit, if_neg notPoint, if_pos mark, if_pos isSigned, ih inRest,
        Cut.extend_push]
  | case6 hasFraction hasExponent head notDigit mark sign rest notSigned notPoint ih =>
      have inTail := (List.mem_cons.mp feed).resolve_left (Ne.symm (ne_feed_of_exponentMark mark))
      have behind := ih inTail
      rw [List.cons_append] at behind ⊢
      rw [List.cons_append, decimal.eq_def]
      simp only [List.head?_cons] at notPoint ⊢
      simp only [if_neg notDigit, if_neg notPoint, if_pos mark, if_neg notSigned, behind,
        Cut.extend_push]
  | case7 hasFraction hasExponent head tail notDigit notPoint notMark =>
      by_cases isFeed : head = '\n'
      · subst isFeed
        rw [List.cons_append, decimal.eq_def]
        simp [isDigit, isExponentMark]
      · have inTail := (List.mem_cons.mp feed).resolve_left (Ne.symm isFeed)
        have sameHead := Text.head?_append_of_feed more inTail
        rw [List.cons_append, decimal.eq_def]
        simp only [if_neg notDigit, sameHead, if_neg notPoint, if_neg notMark, Cut.extend_stop,
          List.cons_append]

private theorem isLineRule_digits (base : Nat) :
    Cut.IsLineRule (Cut.run fun digit => digit == '_' || isDigitIn base digit) :=
  Cut.isLineRule_run (by simp [isDigitIn, digitValue?, isDigit])

theorem ne_feed_of_base {octal : Bool} {head mark : Char} {base : Nat}
    (isBase : (if head == '0' then base? octal mark else none) = some base) : mark ≠ '\n' := by
  rintro rfl
  simp [base?] at isBase

/-- The rest of a number, behind whatever character it began with. -/
theorem isLineRule_cut (octal : Bool) (head : Char) : Cut.IsLineRule (cut octal head) := by
  apply Cut.IsLineRule.of_feed
  · intro text
    fun_cases cut octal head text with
    | case1 => simp [Cut.stop]
    | case2 mark rest base isBase =>
        exact Cut.noFeed_push (ne_feed_of_base isBase) ((isLineRule_digits base).noFeed rest)
    | case3 mark rest => exact noFeed_decimal _ _ _
  · intro text more feed
    cases text with
    | nil => exact absurd feed (by simp)
    | cons mark rest =>
        cases isBase : if head == '0' then base? octal mark else none with
        | some base =>
            have inRest := (List.mem_cons.mp feed).resolve_left (Ne.symm (ne_feed_of_base isBase))
            simp only [cut, List.cons_append, isBase, Cut.extend_push,
              (isLineRule_digits base).append (Or.inl inRest)]
        | none =>
            simp only [cut, List.cons_append, isBase]
            exact decimal_append _ _ more feed

end Numeral

namespace Grammar

/-- An optional mark and a run of name characters. -/
theorem isLineRule_tagName : Cut.IsLineRule tagName := by
  have isLineRule : Cut.IsLineRule (Cut.run isTagNamePart) := Cut.isLineRule_run (by decide +kernel)
  apply Cut.IsLineRule.of_feed
  · intro text
    fun_cases tagName text with
    | case1 => simp [Cut.stop]
    | case2 head tail mark =>
        apply Cut.noFeed_push _ (isLineRule.noFeed tail)
        rintro rfl
        exact absurd mark (by decide)
    | case3 head tail => exact isLineRule.noFeed _
  · intro text more feed
    cases text with
    | nil => exact absurd feed (by simp)
    | cons head tail =>
        by_cases mark : isTagMark head = true
        · have other : head ≠ '\n' := by
            rintro rfl
            exact absurd mark (by decide)
          have inTail := (List.mem_cons.mp feed).resolve_left (Ne.symm other)
          simp only [tagName, List.cons_append, if_pos mark, isLineRule.append (Or.inl inTail),
            Cut.extend_push]
        · have same := isLineRule.append (Or.inl feed : Text.Settles (head :: tail) more)
          rw [List.cons_append] at same
          simp only [tagName, List.cons_append, if_neg mark, same]

end Grammar
end Lexis
