import Lexis.Body
import Lexis.Proofs.Cut
import Lexis.Proofs.Text.WholeLines

namespace Lexis

/-!
Bodies of texts that are read in pieces.

A body that is over when its text ends leaves more of the rest if the text is
longer, and nothing else changes.  A body that is still open goes on with the
body of what follows, if the text does not end between two characters that count
together: an escaped character and its backslash, or the characters of a closer.
-/

namespace Body

/-- An open body and, in the text that follows, the rest of it. -/
def glue (first second : Body) : Body :=
  { cut := second.cut.pushAll first.cut.taken
    lineFeeds := first.lineFeeds + second.lineFeeds
    isOpen := second.isOpen }

/-- The body of a longer text; `next` is the body that the added text alone would go on with. -/
def before (body : Body) (more : Text) (next : Body) : Body :=
  if body.isOpen then body.glue next else { body with cut := body.cut.extend more }

theorem before_of_open {body : Body} (isOpen : body.isOpen = true) (more : Text) (next : Body) :
    body.before more next = body.glue next := by
  rw [before, if_pos isOpen]

theorem before_of_closed {body : Body} (closed : body.isOpen = false) (more : Text) (next : Body) :
    body.before more next = { body with cut := body.cut.extend more } := by
  simp [before, closed]

theorem before_unfinished (more : Text) (next : Body) : unfinished.before more next = next := by
  simp [before, unfinished, glue, Cut.stop, Cut.pushAll]

theorem before_finished (closer rest more : Text) (next : Body) :
    (finished closer rest).before more next = finished closer (rest ++ more) := rfl

theorem before_push (head : Char) (body : Body) (more : Text) (next : Body) :
    (body.push head).before more next = (body.before more next).push head := by
  cases isOpen : body.isOpen with
  | false => simp [before, push, isOpen]
  | true =>
      by_cases feed : head = '\n' <;>
        simp [before, push, glue, isOpen, feed, Cut.pushAll, Cut.push, Nat.add_right_comm]

theorem before_pushQuote (quote : Char) (body : Body) (more : Text) (next : Body) :
    (body.pushQuote quote).before more next = (body.before more next).pushQuote quote := by
  cases isOpen : body.isOpen <;>
    simp [before, pushQuote, glue, isOpen, Cut.pushAll, Cut.push, Cut.extend]

/-! ## Where a body is cut -/

/-- The closer of a comment that is over was found in the text. -/
theorem length_closer_le {closer text : Text} (closed : (ofComment closer text).isOpen = false) :
    closer.length ≤ text.length := by
  fun_induction ofComment closer text with
  | case1 => exact absurd closed (by simp [unfinished])
  | case2 head tail opens => exact (List.isPrefixOf_iff_prefix.mp opens).length_le
  | case3 head tail _ ih => exact Nat.le_succ_of_le (ih closed)

/--
A comment is read in two pieces unless the first is left open inside a closer.
If it is over in the first piece, nothing else can end it before.
-/
theorem ofComment_append {closer text : Text} (more : Text)
    (outside : (ofComment closer text).isOpen = true -> text.EndsOutside closer.dropLast) :
    ofComment closer (text ++ more) =
      (ofComment closer text).before more (ofComment closer more) := by
  fun_induction ofComment closer text with
  | case1 => rw [before_unfinished, List.nil_append]
  | case2 head tail opens =>
      have short : closer.length ≤ (head :: tail).length :=
        (List.isPrefixOf_iff_prefix.mp opens).length_le
      have same := Text.opensWith_append_of_length more short
      rw [List.cons_append] at same ⊢
      rw [ofComment, same, if_pos opens, before_finished,
        ← List.drop_append_of_le_length short, List.cons_append]
  | case3 head tail goesOn ih =>
      have same : Text.opensWith closer (head :: tail ++ more) =
          Text.opensWith closer (head :: tail) := by
        cases isOpen : (ofComment closer tail).isOpen with
        | true => exact Text.opensWith_append more (by simp) (outside isOpen)
        | false =>
            exact Text.opensWith_append_of_length more (Nat.le_succ_of_le (length_closer_le isOpen))
      rw [List.cons_append] at same ⊢
      rw [ofComment, same, if_neg goesOn, before_push, ih fun isOpen => (outside isOpen).tail]

/-- A tripled closer is made of the quote itself, or it never begins with the quote. -/
theorem tripled_eq_or_never (quote : Char) : tripled quote = [quote, quote, quote] ∨
    forall text, Text.opensWith (tripled quote) (quote :: text) = false := by
  unfold tripled
  split
  · next same => exact Or.inl (by rw [same])
  · by_cases double : quote = '"'
    · exact Or.inl (by rw [double])
    · apply Or.inr
      intro text
      simp [Text.opensWith, List.isPrefixOf, Ne.symm double]

/-- The three quotes that end a string were found in the text. -/
theorem length_tripled_le {quote : Char} {multiline : Bool} {text : Text}
    (notSingle : ¬ (!multiline || quote == '`') = true)
    (closed : (ofString quote multiline text).isOpen = false) : 3 ≤ text.length := by
  fun_induction ofString quote multiline text with
  | case1 => exact absurd closed (by simp [unfinished])
  | case2 => exact absurd closed (by simp [unfinished, push])
  | case3 escaped rest ih => exact Nat.le_succ_of_le (Nat.le_succ_of_le (ih closed))
  | case4 _ single => exact absurd single notSingle
  | case5 tail _ _ opens =>
      rw [← length_tripled quote]
      exact (List.isPrefixOf_iff_prefix.mp opens).length_le
  | case6 tail _ _ _ ih => exact Nat.le_succ_of_le (ih closed)
  | case7 head tail _ _ breaks =>
      simp only [Bool.or_eq_true, not_or] at notSingle
      exact absurd (Bool.and_eq_true_iff.mp breaks).1 notSingle.1
  | case8 head tail _ _ _ ih => exact Nat.le_succ_of_le (ih closed)

/-- Three quotes are recognised where a text does not end with the quote. -/
theorem opensWith_tripled_append {quote : Char} {tail : Text} (more : Text)
    (outside : Text.EndsOutside [quote] (quote :: tail)) :
    Text.opensWith (tripled quote) (quote :: (tail ++ more)) =
      Text.opensWith (tripled quote) (quote :: tail) := by
  rcases tripled_eq_or_never quote with same | never
  · apply Text.opensWith_append more (List.cons_ne_nil quote tail)
    intro last isLast inside
    apply outside last isLast
    rw [same] at inside
    simpa using inside
  · rw [never, never]

theorem ofString_escape (quote : Char) (multiline : Bool) (escaped : Char) (rest : Text) :
    ofString quote multiline ('\\' :: escaped :: rest) =
      ((ofString quote multiline rest).push escaped).push '\\' := by
  simp [ofString]

theorem ofString_quote {quote : Char} (multiline : Bool) (tail : Text) (notEscape : quote ≠ '\\') :
    ofString quote multiline (quote :: tail) =
      if !multiline || quote == '`' then finished [quote] tail
      else if Text.opensWith (tripled quote) (quote :: tail) then
        finished (tripled quote) (tail.drop 2)
      else (ofString quote multiline tail).pushQuote quote := by
  rw [ofString.eq_def]
  simp only [if_neg notEscape, if_true]

theorem ofString_other {quote head : Char} (multiline : Bool) (tail : Text)
    (notEscape : head ≠ '\\') (notQuote : head ≠ quote) :
    ofString quote multiline (head :: tail) =
      if !multiline && isLineBreak head then finished [] (head :: tail)
      else (ofString quote multiline tail).push head := by
  rw [ofString.eq_def]
  simp only [if_neg notEscape, if_neg notQuote]

/--
A string is read in two pieces unless the first is left open behind a backslash
or behind the quote.  If it is over in the first piece, nothing else can end it
before.
-/
theorem ofString_append {quote : Char} (multiline : Bool) {text : Text} (more : Text)
    (outside : (ofString quote multiline text).isOpen = true ->
      text.EndsOutside ['\\', quote]) :
    ofString quote multiline (text ++ more) =
      (ofString quote multiline text).before more (ofString quote multiline more) := by
  fun_induction ofString quote multiline text with
  | case1 => rw [before_unfinished, List.nil_append]
  | case2 => exact absurd (by simp) (outside rfl '\\' rfl)
  | case3 escaped rest ih =>
      have restOutside := fun isOpen => (outside isOpen).tail.tail
      rw [before_push, before_push, ← ih restOutside]
      exact ofString_escape quote multiline escaped (rest ++ more)
  | case4 tail single notEscape =>
      rw [List.cons_append, ofString_quote multiline _ notEscape, if_pos single, before_finished]
  | case5 tail notSingle notEscape opens =>
      have short : (tripled quote).length ≤ (quote :: tail).length :=
        (List.isPrefixOf_iff_prefix.mp opens).length_le
      have same := Text.opensWith_append_of_length more short
      rw [length_tripled, List.length_cons] at short
      rw [List.cons_append] at same
      rw [List.cons_append, ofString_quote multiline _ notEscape, if_neg notSingle, same,
        if_pos opens, before_finished, List.drop_append_of_le_length (Nat.le_of_succ_le_succ short)]
  | case6 tail notSingle notEscape goesOn ih =>
      have same : Text.opensWith (tripled quote) (quote :: (tail ++ more)) =
          Text.opensWith (tripled quote) (quote :: tail) := by
        cases isOpen : (ofString quote multiline tail).isOpen with
        | true =>
            apply opensWith_tripled_append more
            intro last isLast inside
            exact outside isOpen last isLast (List.mem_cons_of_mem _ inside)
        | false =>
            have short : (tripled quote).length ≤ (quote :: tail).length := by
              rw [length_tripled]
              exact Nat.le_succ_of_le (length_tripled_le notSingle isOpen)
            exact Text.opensWith_append_of_length more short
      rw [List.cons_append, ofString_quote multiline _ notEscape, if_neg notSingle, same,
        if_neg goesOn, before_pushQuote, ih fun isOpen => (outside isOpen).tail]
  | case7 head tail notEscape notQuote breaks =>
      rw [List.cons_append, ofString_other multiline _ notEscape notQuote, if_pos breaks,
        before_finished, List.cons_append]
  | case8 head tail notEscape notQuote goesOn ih =>
      rw [before_push, ← ih fun isOpen => (outside isOpen).tail, List.cons_append,
        ofString_other multiline _ notEscape notQuote, if_neg goesOn]

/-! ## What a body has taken -/

theorem rest_of_open_ofComment {closer text : Text}
    (isOpen : (ofComment closer text).isOpen = true) : (ofComment closer text).cut.rest = [] := by
  fun_induction ofComment closer text with
  | case1 => rfl
  | case2 => exact absurd isOpen (by simp [finished])
  | case3 head tail _ ih => exact ih isOpen

theorem rest_of_open_ofString {quote : Char} {multiline : Bool} {text : Text}
    (isOpen : (ofString quote multiline text).isOpen = true) :
    (ofString quote multiline text).cut.rest = [] := by
  fun_induction ofString quote multiline text with
  | case1 => rfl
  | case2 => rfl
  | case3 escaped rest ih => exact ih isOpen
  | case4 => exact absurd isOpen (by simp [finished])
  | case5 => exact absurd isOpen (by simp [finished])
  | case6 _ _ _ _ ih => exact ih isOpen
  | case7 => exact absurd isOpen (by simp [finished])
  | case8 _ _ _ _ _ ih => exact ih isOpen

theorem lineFeeds_push {head : Char} {body : Body}
    (count : body.lineFeeds = Text.lineFeeds body.cut.taken) :
    (body.push head).lineFeeds = Text.lineFeeds (body.push head).cut.taken := by
  simp only [push, Cut.push, Text.lineFeeds, List.count_cons] at count ⊢
  by_cases feed : head = '\n' <;> simp [feed, count]

/-- Every line feed of a comment is counted, provided that its closer has none. -/
theorem lineFeeds_ofComment {closer : Text} (noFeed : '\n' ∉ closer) (text : Text) :
    (ofComment closer text).lineFeeds = Text.lineFeeds (ofComment closer text).cut.taken := by
  fun_induction ofComment closer text with
  | case1 => rfl
  | case2 => exact (List.count_eq_zero_of_not_mem noFeed).symm
  | case3 head tail _ ih => exact lineFeeds_push ih

theorem noFeed_tripled (quote : Char) : '\n' ∉ tripled quote := by
  unfold tripled
  split <;> decide

/-- Every line feed of a string is counted, provided that it is not quoted by line feeds. -/
theorem lineFeeds_ofString {quote : Char} (noFeed : quote ≠ '\n') (multiline : Bool) (text : Text) :
    (ofString quote multiline text).lineFeeds =
      Text.lineFeeds (ofString quote multiline text).cut.taken := by
  fun_induction ofString quote multiline text with
  | case1 => rfl
  | case2 => exact lineFeeds_push rfl
  | case3 escaped rest ih => exact lineFeeds_push (lineFeeds_push ih)
  | case4 =>
      have outside : '\n' ∉ [quote] := by simpa using Ne.symm noFeed
      exact (List.count_eq_zero_of_not_mem outside).symm
  | case5 => exact (List.count_eq_zero_of_not_mem (noFeed_tripled quote)).symm
  | case6 tail _ _ _ ih =>
      simp only [pushQuote, Cut.push, Text.lineFeeds, List.count_cons] at ih ⊢
      simpa [noFeed] using ih
  | case7 => rfl
  | case8 head tail _ _ _ ih => exact lineFeeds_push ih

/-- A closer ends no line, so behind a comment that is over at least the line's end is left. -/
theorem rest_ne_nil_of_closed_ofComment {closer text : Text} (noFeed : '\n' ∉ closer)
    (whole : text.IsWholeLines) (closed : (ofComment closer text).isOpen = false) :
    (ofComment closer text).cut.rest ≠ [] := by
  fun_induction ofComment closer text with
  | case1 => exact absurd closed (by simp [unfinished])
  | case2 head tail opens =>
      intro none
      have parts := append_drop_of_opensWith opens
      simp only [finished] at none
      rw [none, List.append_nil] at parts
      exact noFeed (parts ▸ whole.feed_mem (by simp))
  | case3 head tail _ ih => exact ih whole.tail closed

theorem rest_ne_nil_of_closed_ofString {quote : Char} {multiline : Bool} {text : Text}
    (noFeed : quote ≠ '\n') (whole : text.IsWholeLines)
    (closed : (ofString quote multiline text).isOpen = false) :
    (ofString quote multiline text).cut.rest ≠ [] := by
  fun_induction ofString quote multiline text with
  | case1 => exact absurd closed (by simp [unfinished])
  | case2 => exact absurd closed (by simp [unfinished, push])
  | case3 escaped rest ih => exact ih whole.tail.tail closed
  | case4 tail => exact whole.tail_ne_nil noFeed
  | case5 tail _ _ opens =>
      intro none
      have parts := append_drop_of_opensWith opens
      rw [length_tripled, List.drop_succ_cons] at parts
      simp only [finished] at none
      rw [none, List.append_nil] at parts
      exact noFeed_tripled quote (parts ▸ whole.feed_mem (by simp))
  | case6 tail _ _ _ ih => exact ih whole.tail closed
  | case7 => simp [finished]
  | case8 head tail _ _ _ ih => exact ih whole.tail closed

/-- Before its closer a comment takes every character, so it is empty only at the text's end. -/
theorem rest_of_taken_ofComment {closer text : Text} (present : closer ≠ [])
    (empty : (ofComment closer text).cut.taken = []) : text = [] := by
  fun_induction ofComment closer text with
  | case1 => rfl
  | case2 => exact absurd empty present
  | case3 => exact absurd empty (by simp [push, Cut.push])

/-- A string of which nothing is left is followed by a line break, if by anything. -/
theorem rest_of_taken_ofString {quote : Char} {multiline : Bool} {text : Text}
    (empty : (ofString quote multiline text).cut.taken = []) :
    text = [] ∨ exists head tail, isLineBreak head = true ∧
      ofString quote multiline text = finished [] (head :: tail) := by
  fun_induction ofString quote multiline text with
  | case1 => exact Or.inl rfl
  | case2 | case3 | case6 | case8 =>
      exact absurd empty (by simp [push, pushQuote, Cut.push])
  | case4 => exact absurd empty (by simp [finished])
  | case5 =>
      have length := congrArg List.length empty
      simp [finished, length_tripled] at length
  | case7 head tail _ _ breaks =>
      exact Or.inr ⟨head, tail, (Bool.and_eq_true_iff.mp breaks).2, rfl⟩

end Body
end Lexis
