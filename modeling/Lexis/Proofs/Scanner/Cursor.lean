import Lexis.Proofs.Text.Boundary
import Lexis.Scanner
import Lexis.Text.Cursor

namespace Lexis

/-!
Cursors and the cuts of the scanners.

Each move of a cursor is a cut of the unread text that loses nothing of it
(`Cursor.Move.exists_cut`).  So a cursor stays in its text, and however it is moved,
it stands between two characters (`Cursor.stands_between_characters`).  A scanner
cuts its lexemes off in the same way: each of its tokens lies between two places of
a cursor that moves past their lexemes (`Scanner.exists_cursor_of_mem`).
-/

namespace Cursor

variable {cursor : Cursor} {text : Text} {base : Nat}

/-- The ways to move a cursor. -/
inductive Move where
  | skip (bytes : Nat)
  | take
  | takeText (expected : Text)
  | takeRun (inClass : Char -> Bool)

def Move.moved : Move -> Cursor -> Cursor
  | .skip bytes, cursor => cursor.skip bytes
  | .take, cursor => cursor.take.2
  | .takeText expected, cursor => (cursor.takeText expected).2
  | .takeRun inClass, cursor => (cursor.takeRun inClass).2

theorem Move.exists_cut (move : Move) (cursor : Cursor) :
    exists cut : Cut, cut.whole = cursor.rest ∧ move.moved cursor = cursor.past cut := by
  cases move with
  | skip bytes =>
      exact ⟨{ taken := cursor.rest.before bytes, rest := cursor.rest.after bytes },
        Text.before_append_after bytes cursor.rest, rfl⟩
  | take => exact ⟨_, Cut.whole_count 1 cursor.rest, rfl⟩
  | takeText expected =>
      rw [moved, Cursor.takeText]
      split
      · exact ⟨_, Cut.whole_count expected.length cursor.rest, rfl⟩
      · exact ⟨Cut.stop cursor.rest, Cut.whole_stop cursor.rest, rfl⟩
  | takeRun inClass => exact ⟨_, Cut.whole_run inClass cursor.rest, rfl⟩

/-- The text begins at an offset of its document, and the cursor has read some of it. -/
def IsIn (cursor : Cursor) (text : Text) (base : Nat) : Prop :=
  exists read, text = read ++ cursor.rest ∧ cursor.offset = base + read.size

theorem isIn_start (text : Text) (base : Nat) : (start text base).IsIn text base :=
  ⟨[], rfl, rfl⟩

theorem IsIn.past (isIn : cursor.IsIn text base) {cut : Cut} (whole : cut.whole = cursor.rest) :
    (cursor.past cut).IsIn text base := by
  rcases isIn with ⟨read, parts, place⟩
  refine ⟨read ++ cut.taken, ?_, ?_⟩
  · rw [parts, ← whole, Cut.whole, List.append_assoc]
    rfl
  · rw [Cursor.past, place, Text.size_append, Nat.add_assoc]

theorem IsIn.moved (isIn : cursor.IsIn text base) (moves : List Move) :
    (moves.foldl (fun cursor move => move.moved cursor) cursor).IsIn text base := by
  induction moves generalizing cursor with
  | nil => exact isIn
  | cons move moves ih =>
      rcases move.exists_cut cursor with ⟨cut, whole, same⟩
      rw [List.foldl_cons, same]
      exact ih (isIn.past whole)

/-- A moved cursor has read the text up to a boundary, and what lies behind it is unread. -/
theorem stands_between_characters (moves : List Move) (text : Text) (base : Nat) :
    let cursor := moves.foldl (fun cursor move => move.moved cursor) (start text base)
    exists place, cursor.offset = base + place ∧ text.IsBoundary place ∧
      cursor.rest = text.after place := by
  intro cursor
  rcases (isIn_start text base).moved moves with ⟨read, parts, place⟩
  refine ⟨read.size, place, Text.isBoundary_iff.mpr ⟨read, cursor.rest, parts, rfl⟩, ?_⟩
  rw [parts, Text.after_size_append]

end Cursor

/-- Each token of a run is what a cursor moves past that stays in the text. -/
theorem Scanner.exists_cursor_of_mem {Mode : Type} (scanner : Scanner Mode) (state : State)
    (mode : Mode) (cursor : Cursor) {text : Text} {base : Nat} (isIn : cursor.IsIn text base)
    {token : Token} (member : token ∈ (scanner.run state mode cursor.rest).tokens cursor.offset) :
    exists (here : Cursor) (cut : Cut), here.IsIn text base ∧ cut.whole = here.rest ∧
      token.start = here.offset ∧ token.stop = (here.past cut).offset := by
  generalize unread : cursor.rest = rest at member
  fun_induction run scanner state mode rest generalizing cursor with
  | case1 => exact absurd member List.not_mem_nil
  | case2 state mode head tail step ih =>
      have whole : (step.cut.push head).whole = cursor.rest := by
        rw [unread, Cut.whole_push, scanner.whole_cut]
      rcases List.mem_cons.mp member with rfl | behind
      · exact ⟨cursor, step.cut.push head, isIn, whole, rfl, rfl⟩
      · exact ih _ (isIn.past whole) rfl behind

end Lexis
