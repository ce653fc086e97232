import Lexis.Scan

namespace Lexis

/-!
One scan after another.

The scans of two texts are put together to a scan of both.  Where the first
text ends inside a construct, the last lexeme of its scan and the first of the
other may be two pieces of that construct, and are merged.  Placing lexemes in
a document turns this into the joining of token lists, for which the bytes of
the two pieces have to touch; lexemes that follow one another always do.
-/

namespace Token

theorem join_nil_right (isOpen : Bool) (earlier : List Token) :
    join isOpen earlier [] = earlier := by
  cases last : earlier.getLast? <;> simp [join, last]

/-- Only the last of the earlier tokens can be merged. -/
theorem join_cons (isOpen : Bool) (first : Token) {earlier : List Token} (later : List Token)
    (present : earlier ≠ []) :
    join isOpen (first :: earlier) later = first :: join isOpen earlier later := by
  cases later with
  | nil => simp only [join_nil_right]
  | cons next more =>
      have last := List.getLast?_eq_some_getLast present
      simp only [join, List.getLast?_cons, last, Option.getD_some,
        List.dropLast_cons_of_ne_nil present]
      split <;> rfl

theorem join_singleton_cons (isOpen : Bool) (last next : Token) (more : List Token) :
    join isOpen [last] (next :: more) =
      if isOpen && last.continues next then { last with stop := next.stop } :: more
      else last :: next :: more := rfl

theorem join_false (earlier later : List Token) : join false earlier later = earlier ++ later := by
  simp only [join, Bool.false_and, Bool.false_eq_true, if_false]
  split <;> rfl

end Token

namespace Lexeme

/-- Two pieces of one construct as a single lexeme. -/
def merge (first second : Lexeme) : Lexeme :=
  { first with
    text := first.text ++ second.text
    lineStates := first.lineStates ++ second.lineStates }

/-- One list of lexemes after another, with two pieces of an open construct merged. -/
def join (isOpen : Bool) : List Lexeme -> List Lexeme -> List Lexeme
  | [], later => later
  | [last], [] => [last]
  | [last], next :: more =>
      if isOpen && last.category == next.category then last.merge next :: more
      else last :: next :: more
  | first :: second :: earlier, later => first :: join isOpen (second :: earlier) later

theorem join_cons (isOpen : Bool) (first : Lexeme) {earlier : List Lexeme} (later : List Lexeme)
    (present : earlier ≠ []) :
    join isOpen (first :: earlier) later = first :: join isOpen earlier later := by
  cases earlier with
  | nil => exact absurd rfl present
  | cons second earlier => rfl

theorem join_false (earlier later : List Lexeme) : join false earlier later = earlier ++ later := by
  induction earlier with
  | nil => rfl
  | cons first earlier ih =>
      cases earlier with
      | nil => cases later <;> rfl
      | cons second earlier => simp only [join, ih, List.cons_append]

/-- The characters of a list of lexemes. -/
def spell (lexemes : List Lexeme) : Text :=
  (lexemes.map (·.text)).flatten

theorem lineStates_join (isOpen : Bool) (earlier later : List Lexeme) :
    (join isOpen earlier later).flatMap (·.lineStates) =
      earlier.flatMap (·.lineStates) ++ later.flatMap (·.lineStates) := by
  induction earlier with
  | nil => rfl
  | cons first earlier ih =>
      cases earlier with
      | nil =>
          cases later with
          | nil => simp [join]
          | cons next more =>
              simp only [join]
              split <;> simp [merge]
      | cons second earlier =>
          simp only [join]
          rw [List.flatMap_cons, ih, List.flatMap_cons (x := first), List.append_assoc]

/--
Placing joined lexemes joins the tokens of both lists.  The two tokens at the
seam touch, since the second list is placed where the first one ends.
-/
theorem place_join (isOpen : Bool) (start : Nat) (earlier later : List Lexeme) :
    place start (join isOpen earlier later) =
      Token.join isOpen (place start earlier) (place (start + (spell earlier).size) later) := by
  induction earlier generalizing start with
  | nil => simp [join, spell, place, Token.join]
  | cons first earlier ih =>
      have size : (spell (first :: earlier)).size = first.text.size + (spell earlier).size := by
        simp [spell]
      cases earlier with
      | nil =>
          have alone : (spell [first]).size = first.text.size := by simp [spell]
          cases later with
          | nil => simp only [join, place, Token.join_nil_right]
          | cons next more =>
              rw [alone]
              simp only [join, place, Token.join_singleton_cons, Token.continues,
                beq_self_eq_true, Bool.and_true]
              split
              · simp only [place, merge, Text.size_append, Nat.add_assoc]
              · rfl
      | cons second earlier =>
          have present : place (start + first.text.size) (second :: earlier) ≠ [] := by
            simp [place]
          rw [join_cons isOpen first later (by simp), place, place,
            Token.join_cons _ _ _ present, ih, size, Nat.add_assoc]

end Lexeme

namespace Scan

/-- The characters that were scanned. -/
def text (scan : Scan) : Text :=
  Lexeme.spell scan.lexemes

/-- The scan of a text, and behind it that of a text which goes on from its end state. -/
def append (first second : Scan) : Scan :=
  { lexemes := Lexeme.join (!first.endState.isNormal) first.lexemes second.lexemes
    endState := second.endState }

theorem endState_append (first second : Scan) :
    (first.append second).endState = second.endState := rfl

theorem lineStates_append (first second : Scan) :
    (first.append second).lineStates = first.lineStates ++ second.lineStates :=
  Lexeme.lineStates_join _ first.lexemes second.lexemes

/-- The second scan's tokens are placed behind the first scan's text and joined to its tokens. -/
theorem tokens_append (first second : Scan) (base : Nat) :
    (first.append second).tokens base =
      Token.join (!first.endState.isNormal) (first.tokens base)
        (second.tokens (base + first.text.size)) :=
  Lexeme.place_join _ base first.lexemes second.lexemes

/-- A lexeme in front stays apart from what is appended, unless it alone is left open. -/
theorem cons_append (lexeme : Lexeme) (first second : Scan)
    (closed : first.lexemes = [] -> first.endState = .normal) :
    (first.cons lexeme).append second = (first.append second).cons lexeme := by
  by_cases empty : first.lexemes = []
  · have normal := closed empty
    simp only [append, cons, normal, empty, State.isNormal, beq_self_eq_true, Bool.not_true,
      Lexeme.join_false, List.cons_append, List.nil_append]
  · simp only [append, cons, Lexeme.join_cons _ lexeme _ empty]

end Scan
end Lexis
