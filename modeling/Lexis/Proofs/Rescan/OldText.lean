import Lexis.Proofs.Document.Splice
import Lexis.Proofs.Rescan.Fits

namespace Lexis

/-!
Where the rescanned lines were in the old text.

The end of the rescanned lines is moved back twice, once in lines by the number
of lines that the edit added, and once in bytes by the number of bytes that it
added.  The two numbers are computed apart from each other, and yet the two ways
lead to the start of the same line of the old text, whatever states are cached
(`Highlighter.rescan_mapsBack`).  On both sides of the rescanned bytes the two
texts are the same.
-/

/-- The greatest distance that can be stored: one bit of it is the sign. -/
def maxDistance : Nat := maxOffset / 2

/--
The rescanned lines and bytes of the new text are told in places of the old one.
The edit ends on the line `editedLast` of the new text and lengthens the text by
`delta` bytes.
-/
structure Rescan.MapsBack (result : Rescan) (old new : Text) (editedLast : Nat) (delta : Int) :
    Prop where
  lineDelta : result.lineDelta = (new.lines.length : Int) - old.lines.length
  /-- Both distances can be stored, with either sign. -/
  storable : result.lineDelta.natAbs ≤ maxDistance ∧ delta.natAbs ≤ maxDistance
  /-- No line whose end state is compared with an old one is moved out of the old lines. -/
  compared : forall line, editedLast ≤ line -> line < result.lines.stop ->
    exists oldLine, moveOffset? line (-result.lineDelta) = some oldLine ∧
      (oldLine : Int) = line - result.lineDelta ∧
      result.oldLines.start ≤ oldLine ∧ oldLine < result.oldLines.stop
  /-- Neither end is held at a bound when it is moved. -/
  moved : (result.oldLines.stop : Int) = result.lines.stop - result.lineDelta ∧
    (result.oldStop delta : Int) = result.span.stop - delta
  ordered : result.oldLines.start < result.oldLines.stop
  inside : result.oldLines.stop ≤ old.lines.length
  start : result.span.start = old.lineStart result.oldLines.start
  stop : result.oldStop delta = old.lineStart result.oldLines.stop
  oldBoundaries : old.IsBoundary result.span.start ∧ old.IsBoundary (result.oldStop delta)
  newBoundaries : new.IsBoundary result.span.start ∧ new.IsBoundary result.span.stop
  slice : old.slice result.span.start (result.oldStop delta) =
    ((old.lines.drop result.oldLines.start).take result.oldLines.length).flatten
  front : old.before result.span.start = new.before result.span.start
  back : old.after (result.oldStop delta) = new.after result.span.stop

namespace Rescan

variable {result : Rescan} {method : Method} {old new front removed back : Text} {edit : Edit}
  {entry : State} {count : Nat}

/--
Behind the last edited line the old text goes on as the new one does.  So the two
texts have the same lines behind the rescanned ones, and the same bytes.
-/
theorem GoesOver.mapsBack {cached : LineStates}
    (divides : edit.Divides old new front removed back)
    (oldStorable : old.size ≤ maxDistance) (newStorable : new.size ≤ maxDistance)
    (counted : cached.count = old.lines.length)
    (goesOver : result.GoesOver method new entry front.lineFeeds count)
    (behind : front.lineFeeds + edit.text.lineFeeds < front.lineFeeds + count)
    (lineDelta : result.lineDelta = (new.lines.length : Int) - cached.count) :
    result.MapsBack old new (front.lineFeeds + edit.text.lineFeeds)
      ((new.size : Int) - old.size) := by
  have oldLength := divides.length_lines_old
  have newLength := divides.length_lines_new
  have oldCount := old.length_lines_le_size
  have newCount := new.length_lines_le_size
  have offsets : 2 * maxDistance + 1 = maxOffset := by decide
  rcases divides.exists_old_line behind goesOver.within with
    ⟨oldLine, moved, oldBehind, inside, sameBack⟩
  have bytes := Text.lineStart_eq_of_drop_eq sameBack
  have oldSize := old.lineStart_le_size oldLine
  -- where the result begins and ends, in both texts
  have lines := goesOver.lines
  have linesStop : result.lines.stop = front.lineFeeds + count := by rw [lines]
  have spanStart : result.span.start = new.lineStart front.lineFeeds := by rw [goesOver.span]
  have spanStop : result.span.stop = new.lineStart (front.lineFeeds + count) := by
    rw [goesOver.span]
  have oldLines : result.oldLines = { start := front.lineFeeds, stop := oldLine } := by
    rw [goesOver.oldLines_eq (by omega) lineDelta (by omega),
      show front.lineFeeds + count + cached.count - new.lines.length = oldLine by omega]
  have oldStart : result.oldLines.start = front.lineFeeds := by rw [oldLines]
  have oldEnd : result.oldLines.stop = oldLine := by rw [oldLines]
  have oldStop : result.oldStop ((new.size : Int) - old.size) = old.lineStart oldLine :=
    moveOffset_eq (by omega) (by omega)
  rw [counted] at lineDelta
  constructor
  · exact lineDelta
  · omega
  · intro line fromLast before
    have place : moveOffset? line (-result.lineDelta) =
        some (line + old.lines.length - new.lines.length) :=
      moveOffset?_eq_some_iff.mpr ⟨by omega, by omega⟩
    exact ⟨_, place, by omega, by omega, by omega⟩
  · omega
  · omega
  · rw [oldEnd]
    exact inside
  · rw [spanStart, oldStart, divides.lineStart_eq]
  · rw [oldStop, oldEnd]
  · rw [spanStart, ← divides.lineStart_eq, oldStop]
    exact ⟨old.isBoundary_lineStart _, old.isBoundary_lineStart _⟩
  · rw [spanStart, spanStop]
    exact ⟨new.isBoundary_lineStart _, new.isBoundary_lineStart _⟩
  · have between := old.slice_lines front.lineFeeds (oldLine - front.lineFeeds)
    rw [show front.lineFeeds + (oldLine - front.lineFeeds) = oldLine by omega] at between
    rw [spanStart, ← divides.lineStart_eq, oldStop, oldLines]
    exact between
  · rw [spanStart, Text.before_lineStart, ← divides.lineStart_eq, Text.before_lineStart,
      divides.take_lines]
  · rw [oldStop, spanStop, Text.after_lineStart, Text.after_lineStart, sameBack]

end Rescan

namespace Highlighter

/--
With one cached state for each line of the old text, be they those of this text or
any others, a rescan has an answer.  The lines and the bytes that it is for are
moved back to the same place of the old text, in front of which and behind which
the edit has changed nothing, and on the way no offset or line number is held at a
bound or lost.
-/
theorem rescan_mapsBack (highlighter : Highlighter) {old : Text} {edit : Edit}
    {cached : LineStates} (fits : edit.Fits old) (oldStorable : old.size ≤ maxDistance)
    (newStorable : (edit.applyTo old).size ≤ maxDistance)
    (counted : cached.count = old.lines.length) :
    exists result, highlighter.rescan (edit.applyTo old) cached edit.inserted = some result ∧
      result.MapsBack old (edit.applyTo old) ((edit.applyTo old).lineOf edit.inserted.stop)
        (((edit.applyTo old).size : Int) - old.size) := by
  rcases Edit.divides_of_accepted fits.error?_eq with ⟨front, removed, back, divides⟩
  have storable : old.IsStorable := Nat.lt_of_le_of_lt oldStorable (by decide)
  have cachedStorable : cached.count ≤ maxOffset := by
    rw [counted]
    exact storable.length_lines_le
  rcases exists_rescan_of_divides divides storable counted with ⟨result, found⟩
  rcases rescan_goesOver found with ⟨entry, count, -, goesOver, lineDelta, -⟩
  have behind := (rescan_fits cachedStorable found).editedLast
  rw [divides.lineOf_start] at goesOver
  rw [goesOver.lines, divides.lineOf_stop] at behind
  refine ⟨result, found, ?_⟩
  rw [divides.lineOf_stop]
  exact goesOver.mapsBack divides oldStorable newStorable counted behind lineDelta

/-- Two lines are joined to the one before them, and the rescan stops at a state that fits by chance. -/
theorem rescan_mapsBack_of_joined_lines :
    let old : Text := ['é', '\n', 'b', '\n', 'c', '\n', 'd']
    let cached : LineStates := ⟨[.fence, .blockComment, .normal, .fence]⟩
    let edit : Edit := { span := ⟨2, 5⟩, text := ['ü'] }
    let result : Rescan :=
      { lines := ⟨0, 1⟩
        span := ⟨0, 6⟩
        tokens := [⟨.variableName, 0, 5⟩, ⟨.newline, 5, 6⟩]
        states := [.normal]
        lineDelta := -2 }
    edit.Fits old ∧ old.size ≤ maxDistance ∧ (edit.applyTo old).size ≤ maxDistance ∧
      cached.count = old.lines.length ∧
      (ofLanguage .c).rescan (edit.applyTo old) cached edit.inserted = some result ∧
      result.oldLines = ⟨0, 3⟩ ∧ result.oldStop (-1) = 7 ∧
      result.MapsBack old (edit.applyTo old) 0 (-1) := by
  intro old cached edit result
  have fits : edit.Fits old := by decide
  have oldStorable : old.size ≤ maxDistance := by decide
  have newStorable : (edit.applyTo old).size ≤ maxDistance := by decide
  have counted : cached.count = old.lines.length := by decide
  have found : (ofLanguage .c).rescan (edit.applyTo old) cached edit.inserted = some result := by
    decide +kernel
  obtain ⟨other, sameFound, mapsBack⟩ :=
    rescan_mapsBack (ofLanguage .c) fits oldStorable newStorable counted
  rcases Option.some.inj (found.symm.trans sameFound) with rfl
  exact ⟨fits, oldStorable, newStorable, counted, found, by decide, by decide, mapsBack⟩

end Highlighter
end Lexis
