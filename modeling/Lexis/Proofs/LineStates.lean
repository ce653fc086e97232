import Lexis.Proofs.Highlighter.LineByLine
import Lexis.LineStates

namespace Lexis

/-!
The states of a scanned text, line by line.

A scan of a text leaves one state for each of its lines, and each line is
entered in the state that the lines before it leave.
-/

/-- A plain text is left in no state on any of its lines. -/
theorem Method.count_scanPlain (text : Text) :
    (LineStates.ofScan (Method.scanPlain text)).count = text.lineFeeds + 1 := by
  simp only [LineStates.count, LineStates.ofScan, Scan.endStates, lineStates_scanPlain,
    List.length_append, List.length_replicate, List.length_singleton]

namespace LineStates

variable {method : Method}

theorem states_ofScan (readsLines : method.ReadsLines) (text : Text) :
    (ofScan (method.scan .normal text)).states = method.lineEnds .normal text.lines :=
  readsLines.endStates_scan_normal text

theorem count_ofScan (readsLines : method.ReadsLines) (text : Text) :
    (ofScan (method.scan .normal text)).count = text.lines.length := by
  rw [count, states_ofScan readsLines, Method.length_lineEnds]

theorem endState?_ofScan (readsLines : method.ReadsLines) {text : Text} {line : Nat}
    (inside : line < text.lines.length) :
    (ofScan (method.scan .normal text)).endState? line =
      some (method.after .normal (text.lines.take (line + 1))) := by
  rw [endState?, states_ofScan readsLines]
  exact Method.getElem?_lineEnds .normal text.lines inside

/-- A line is entered in the state that the lines before it leave. -/
theorem entryState?_ofScan (readsLines : method.ReadsLines) {text : Text} {line : Nat}
    (inside : line < text.lines.length) :
    (ofScan (method.scan .normal text)).entryState? line =
      some (method.after .normal (text.lines.take line)) := by
  cases line with
  | zero =>
      have present : (ofScan (method.scan .normal text)).isEmpty = false := by
        simp [ofScan, isEmpty, Scan.endStates]
      rw [entryState?, present]
      rfl
  | succ line => exact endState?_ofScan readsLines (Nat.lt_of_succ_lt inside)

theorem exists_entryState? {cached : LineStates} {line : Nat} (inside : line < cached.count) :
    exists entry, cached.entryState? line = some entry := by
  cases line with
  | zero =>
      have present : cached.isEmpty = false := by
        simpa [isEmpty] using List.length_pos_iff.mp inside
      exact ⟨.normal, by rw [entryState?, present]; rfl⟩
  | succ line =>
      have before : line < cached.states.length := Nat.lt_of_succ_lt inside
      exact ⟨cached.states[line], List.getElem?_eq_getElem before⟩

end LineStates

end Lexis
