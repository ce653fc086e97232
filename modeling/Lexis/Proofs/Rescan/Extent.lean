import Lexis.Proofs.Rescan.Fits

namespace Lexis

/-!
How far a rescan goes.

A rescan asks behind each line whether it may stop there, and it stops as soon as
it may: no line before the one that it stops behind would have let it stop
(`Highlighter.rescan_goesOn`).
-/

namespace LineStates

/-- A line behind the edited ones that is not settled did not end in this state before. -/
theorem endState?_ne_of_settled? {cached : LineStates} {editedLast line lineCount : Nat}
    {state : State}
    (settled : cached.settled? editedLast ((lineCount : Int) - cached.count) line state =
      some false) (behind : editedLast ≤ line) :
    cached.endState? (line + cached.count - lineCount) ≠ some state := by
  rw [settled?, if_neg (Nat.not_lt_of_le behind)] at settled
  rcases Option.map_eq_some_iff.mp settled with ⟨oldLine, moved, other⟩
  have placed := (moveOffset?_eq_some_iff.mp moved).1
  rw [show line + cached.count - lineCount = oldLine by omega]
  simpa using other

end LineStates

namespace Highlighter

variable {highlighter : Highlighter}

/-- Each of the scanned lines but the last was asked for, and it was not settled. -/
theorem settled?_of_scanLines {settled? : Nat -> State -> Option Bool} {line offset : Nat}
    {state : State} {lines : List Text} {found : List Token × List State}
    (scanned : highlighter.scanLines settled? line offset state lines = some found) {number : Nat}
    (before : number + 1 < found.2.length) {ended : State}
    (isEnd : found.2[number]? = some ended) : settled? (line + number) ended = some false := by
  induction lines generalizing line offset state found number with
  | nil =>
      rcases Option.some.inj scanned with rfl
      exact absurd before (Nat.not_lt_zero _)
  | cons text texts ih =>
      rw [scanLines] at scanned
      have stopped : forall tokens, ¬ found = (tokens, [(highlighter.scan state text).endState]) := by
        rintro tokens rfl
        exact absurd before (by simp)
      by_cases last : texts.isEmpty = true
      · rw [if_pos last, Option.some_inj] at scanned
        exact absurd scanned.symm (stopped _)
      rw [if_neg last] at scanned
      rcases Option.bind_eq_some_iff.mp scanned with ⟨settled, asked, scanned⟩
      cases settled with
      | true =>
          rw [if_pos rfl, Option.some_inj] at scanned
          exact absurd scanned.symm (stopped _)
      | false =>
          rw [if_neg Bool.false_ne_true] at scanned
          rcases Option.bind_eq_some_iff.mp scanned with ⟨⟨later, states⟩, rest, scanned⟩
          rcases Option.some.inj scanned with rfl
          cases number with
          | zero =>
              rcases Option.some.inj isEnd with rfl
              exact asked
          | succ number =>
              have further := ih rest (Nat.lt_of_succ_lt_succ before) isEnd
              rwa [Nat.add_right_comm] at further

/-- A rescan does not go on behind lines after which it could have stopped. -/
theorem rescan_goesOn {text : Text} {cached : LineStates} {edited : Span} {result : Rescan}
    {entry : State} {first count : Nat}
    (found : highlighter.rescan text cached edited = some result)
    (entered : cached.entryState? (text.lineOf edited.start) = some entry)
    (goesOver : result.GoesOver highlighter.method text entry first count) {number : Nat}
    (positive : 0 < number) (before : number < count) :
    ¬ Rescan.Stopped highlighter.method text cached edited entry number := by
  rcases rescan_eq_some found with ⟨-, -, -, -, other, otherEntered, scanned, shape⟩
  rcases Option.some.inj (entered.symm.trans otherEntered) with rfl
  obtain rfl : text.lineOf edited.start = first := by
    have lines := congrArg Rescan.lines shape
    rw [goesOver.lines] at lines
    exact (Span.mk.inj lines).1.symm
  have within := goesOver.within
  have length := goesOver.length_states
  obtain ⟨number, rfl⟩ := Nat.exists_eq_add_one_of_ne_zero (Nat.ne_of_gt positive)
  have ended : result.states[number]? = some (highlighter.method.after entry
      ((text.lines.drop (text.lineOf edited.start)).take (number + 1))) := by
    have inside : number < ((text.lines.drop (text.lineOf edited.start)).take count).length := by
      rw [List.length_take, List.length_drop]
      omega
    rw [goesOver.states, Method.getElem?_lineEnds _ _ inside, List.take_take,
      Nat.min_eq_left (Nat.le_of_lt before)]
  have asked := settled?_of_scanLines scanned (by rwa [length]) ended
  rintro (all | ⟨behind, same⟩)
  · omega
  · exact LineStates.endState?_ne_of_settled? asked behind same

end Highlighter
end Lexis
