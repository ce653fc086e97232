import Lexis.Proofs.Document.Apply
import Lexis.Proofs.Rescan.Extent

namespace Lexis

/-!
How far an edit is rescanned.

A rescan goes on only as long as it must.  Since the cached states of a document
are those of its text, the lines that an edit rescans are told by the two texts
alone, and no edit of a text that is not plain scans everything anew for want of
cached states (`Document.apply_rescans_fewest`).
-/

namespace Highlighter

variable {highlighter : Highlighter}

/--
A line of the new text behind which a rescan may stop: the last line, or one
that scans of the whole texts leave in the same state as the line of the old text
that it was.
-/
def MayStop (highlighter : Highlighter) (old new : Text) (lineDelta : Int) (line : Nat) : Prop :=
  line = new.lineFeeds ∨
    exists (oldLine : Nat) (state : State), (oldLine : Int) = line - lineDelta ∧
      (LineStates.ofScan (highlighter.scan .normal new)).endState? line = some state ∧
      (LineStates.ofScan (highlighter.scan .normal old)).endState? oldLine = some state

/-- Scanned from the first edited line on, so many lines end where a rescan may stop. -/
theorem stopped_iff {old new front removed back : Text} {edit : Edit}
    (readsLines : highlighter.method.ReadsLines)
    (divides : edit.Divides old new front removed back) {number : Nat} (positive : 0 < number)
    (within : front.lineFeeds + number ≤ new.lines.length) :
    Rescan.Stopped highlighter.method new (LineStates.ofScan (highlighter.scan .normal old))
        edit.inserted (highlighter.method.after .normal (new.lines.take front.lineFeeds)) number ↔
      new.lineOf edit.inserted.stop ≤ front.lineFeeds + number - 1 ∧
        highlighter.MayStop old new ((new.lineFeeds : Int) - old.lineFeeds)
          (front.lineFeeds + number - 1) := by
  have oldLength := divides.length_lines_old
  have newLength := divides.length_lines_new
  have oldFeeds := old.length_lines
  have newFeeds := new.length_lines
  have counted : (LineStates.ofScan (highlighter.scan .normal old)).count = old.lines.length :=
    LineStates.count_ofScan readsLines old
  have newEnd := LineStates.endState?_ofScan readsLines
    (show front.lineFeeds + number - 1 < new.lines.length by omega)
  rw [show front.lineFeeds + number - 1 + 1 = front.lineFeeds + number by omega, List.take_add,
    Method.after_append] at newEnd
  rw [Rescan.Stopped, MayStop, divides.lineOf_start, divides.lineOf_stop, counted]
  constructor
  · rintro (all | ⟨behind, same⟩)
    · exact ⟨by omega, Or.inl (by omega)⟩
    · exact ⟨behind, Or.inr ⟨_, _, by omega, newEnd, same⟩⟩
  · rintro ⟨behind, last | ⟨oldLine, state, moved, newState, oldState⟩⟩
    · exact Or.inl (by omega)
    · have index : front.lineFeeds + number - 1 + old.lines.length - new.lines.length = oldLine := by
        omega
      rw [Option.some.inj (newState.symm.trans newEnd)] at oldState
      exact Or.inr ⟨behind, by rw [index, oldState]⟩

/-- A rescan from the cached states of the old text ends with the first line that allows it to. -/
theorem rescan_stopsFirst {old new front removed back : Text} {edit : Edit} {result : Rescan}
    (readsLines : highlighter.method.ReadsLines)
    (divides : edit.Divides old new front removed back)
    (found : highlighter.rescan new (LineStates.ofScan (highlighter.scan .normal old))
      edit.inserted = some result) :
    result.lines.start = front.lineFeeds ∧
      result.lineDelta = (new.lineFeeds : Int) - old.lineFeeds ∧
      exists last, result.lines.stop = last + 1 ∧ new.lineOf edit.inserted.stop ≤ last ∧
        highlighter.MayStop old new result.lineDelta last ∧
        forall line, new.lineOf edit.inserted.stop ≤ line -> line < last ->
          ¬ highlighter.MayStop old new result.lineDelta line := by
  have oldLength := divides.length_lines_old
  have lastEdited := divides.lineOf_stop
  have entered := LineStates.entryState?_ofScan readsLines
    (show front.lineFeeds < old.lines.length by omega)
  rw [divides.take_lines, ← divides.lineOf_start] at entered
  rcases rescan_goesOver found with ⟨entry, count, cachedEntry, goesOver, lineDelta, stopped⟩
  rcases Option.some.inj (entered.symm.trans cachedEntry) with rfl
  have goesOn : forall number, 0 < number -> number < count -> _ :=
    fun number positive before => rescan_goesOn found entered goesOver positive before
  have counted : (LineStates.ofScan (highlighter.scan .normal old)).count = old.lines.length :=
    LineStates.count_ofScan readsLines old
  have positive := goesOver.positive
  have within := goesOver.within
  have lines := goesOver.lines
  rw [divides.lineOf_start] at stopped goesOn within lines
  have linesStart : result.lines.start = front.lineFeeds := by rw [lines]
  have linesStop : result.lines.stop = front.lineFeeds + count := by rw [lines]
  rw [counted, Text.length_lines, Text.length_lines] at lineDelta
  have delta : result.lineDelta = (new.lineFeeds : Int) - old.lineFeeds := by omega
  rcases (stopped_iff readsLines divides positive within).mp stopped with ⟨behind, mayStop⟩
  refine ⟨linesStart, delta, front.lineFeeds + count - 1, by omega, behind, ?_, ?_⟩
  · rw [delta]
    exact mayStop
  · intro line fromLast before earlier
    obtain ⟨number, rfl⟩ : exists number, line = front.lineFeeds + (number + 1) - 1 :=
      ⟨line - front.lineFeeds, by omega⟩
    rw [delta] at earlier
    apply goesOn (number + 1) (Nat.succ_pos _) (by omega)
    exact (stopped_iff readsLines divides (Nat.succ_pos _) (by omega)).mpr ⟨fromLast, earlier⟩

theorem isPlain_ofLanguage {language : Language} (notPlain : language ≠ .plainText) :
    (ofLanguage language).method.isPlain = false := by
  cases language <;> first | exact absurd rfl notPlain | decide

end Highlighter

namespace Document

variable {document changed : Document} {edit : Edit} {patch : Patch}

/-- The states of a fresh document are enough for a rescan of every accepted edit. -/
theorem IsFresh.exists_rescan (isFresh : document.IsFresh)
    (accepted : edit.error? document.text = none) :
    exists result, document.highlighter.rescan (edit.applyTo document.text) document.cached
      edit.inserted = some result := by
  rcases Edit.divides_of_accepted accepted with ⟨front, removed, back, divides⟩
  apply Highlighter.exists_rescan_of_divides divides isFresh.storable
  rw [isFresh.count_cached, lineCount, Text.length_lines]

/--
An accepted edit of a text that is not plain rescans some of its lines.  They go
from the line that the edit begins in to the first line, not before the last
edited one, behind which a rescan may stop: the last line of the text, or a line
that a scan of the whole text leaves in the state that it was left in before.
-/
theorem apply_rescans_fewest (reached : Reachable document)
    (notPlain : document.language ≠ .plainText)
    (applied : document.apply edit = .ok (patch, changed)) :
    patch.fullRescan = false ∧
      patch.rescannedLines.start = document.text.lineOf edit.span.start ∧
      patch.rescannedLines.start = changed.text.lineOf edit.span.start ∧
      exists last, patch.rescannedLines.stop = last + 1 ∧
        changed.text.lineOf (edit.span.start + edit.text.size) ≤ last ∧
        (Highlighter.ofLanguage document.language).MayStop document.text changed.text
          patch.lineDelta last ∧
        forall line, changed.text.lineOf (edit.span.start + edit.text.size) ≤ line ->
          line < last ->
            ¬ (Highlighter.ofLanguage document.language).MayStop document.text changed.text
              patch.lineDelta line := by
  have isFresh := reached.isFresh
  rcases apply_eq_ok_iff.mp applied with ⟨fits, same⟩
  have plain : document.highlighter.method.isPlain = false := by
    rw [isFresh.ofLanguage]
    exact Highlighter.isPlain_ofLanguage notPlain
  have readsLines : document.highlighter.method.ReadsLines := by
    rw [isFresh.ofLanguage] at plain ⊢
    exact Highlighter.readsLines_ofLanguage _ plain
  rcases isFresh.exists_rescan fits.error?_eq with ⟨result, found⟩
  rcases Edit.divides_of_accepted fits.error?_eq with ⟨front, removed, back, divides⟩
  obtain ⟨rfl, rfl⟩ := Prod.mk.inj ((applyEdit_of_rescan plain found).symm.trans same)
  rw [isFresh.cached] at found
  rcases Highlighter.rescan_stopsFirst readsLines divides found with
    ⟨start, -, last, stop, behind, mayStop, earliest⟩
  rw [← isFresh.ofLanguage]
  refine ⟨rfl, ?_, ?_, last, stop, behind, mayStop, earliest⟩
  · exact start.trans divides.lineOf_start_old.symm
  · exact start.trans divides.lineOf_start.symm

/--
An edit puts a comment's opener on a line of its own.  The line behind it is now
left inside the comment, and only the one that closes the comment is left as before.
-/
theorem apply_rescans_fewest_of_opened_comment :
    let document := create ['x', '\n', '*', '/', '\n', 'z'] (some .c)
    let edit := Edit.insert 0 ['/', '*', '\n']
    let result := document.applyEdit edit
    Reachable document ∧ document.language ≠ .plainText ∧ document.apply edit = .ok result ∧
      result.1.fullRescan = false ∧ result.1.rescannedLines = ⟨0, 3⟩ ∧ result.1.lineDelta = 1 ∧
      result.2.text.lineOf 3 = 1 ∧
      ¬ (Highlighter.ofLanguage .c).MayStop document.text result.2.text 1 1 := by
  intro document edit result
  have reached : Reachable document := .create _ _ (by decide)
  have notPlain : document.language ≠ .plainText := by decide
  have applied : document.apply edit = .ok result := apply_eq_ok_iff.mpr ⟨by decide, rfl⟩
  have lines : result.1.rescannedLines = ⟨0, 3⟩ := by decide +kernel
  have lineDelta : result.1.lineDelta = 1 := by decide +kernel
  have editedLast : result.2.text.lineOf 3 = 1 := by decide +kernel
  rcases @apply_rescans_fewest document result.2 edit result.1 reached notPlain applied with
    ⟨partly, -, -, last, stop, -, -, earliest⟩
  rw [lines] at stop
  rw [lineDelta] at earliest
  obtain rfl : 2 = last := Nat.succ.inj stop
  have goesOn := earliest 1 (Nat.le_of_eq editedLast) (by decide)
  exact ⟨reached, notPlain, applied, partly, lines, lineDelta, editedLast, goesOn⟩

end Document
end Lexis
