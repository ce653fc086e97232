import Lexis.Document.Basic
import Lexis.Proofs.Document.Edit
import Lexis.Proofs.Rescan
import Lexis.Proofs.Token.Seams

namespace Lexis

/-!
Where a rescan meets the old text again.

In front of the rescanned lines nothing has changed.  Behind them the old text
goes on as the new one does, and a scan enters it in the same state: either the
rescan went to the end, or it stopped behind the edit at a line that was left in
the same state before.  So the old tokens and states fit on both sides.
-/

/-- All offsets and line numbers of the text can be stored, as those of a text in memory can. -/
def Text.IsStorable (text : Text) : Prop :=
  text.size < maxOffset

instance (text : Text) : Decidable text.IsStorable :=
  inferInstanceAs (Decidable (_ < _))

theorem Text.IsStorable.length_lines_le {text : Text} (storable : text.IsStorable) :
    text.lines.length ≤ maxOffset :=
  Nat.le_trans text.length_lines_le_size storable

/-- From these lines on, two texts have the same lines, and they enter them in the same state. -/
structure Method.Meets (method : Method) (old new : Text) (oldLine line : Nat) : Prop where
  line_le : oldLine ≤ old.lines.length
  back : old.lines.drop oldLine = new.lines.drop line
  entry : new.lines.drop line ≠ [] ->
    method.after .normal (old.lines.take oldLine) = method.after .normal (new.lines.take line)

/-- Outside of the rescanned lines the two texts have the same lines, entered in the same states. -/
structure Rescan.Rejoins (result : Rescan) (method : Method) (old new : Text) (delta : Int) : Prop
    extends method.Meets old new result.oldLines.stop result.lines.stop where
  start_lt : result.lines.start < old.lines.length
  front : old.lines.take result.lines.start = new.lines.take result.lines.start
  lines_moved : (result.oldLines.stop : Int) = result.lines.stop - result.lineDelta
  oldStop : result.oldStop delta = old.lineStart result.oldLines.stop
  bytes_moved : (old.lineStart result.oldLines.stop : Int) = result.span.stop - delta

/--
A rescan that has come to the end of the text, or behind the edit to a line that
was left in the same state before, meets the old text there.
-/
theorem Edit.Divides.exists_meets {edit : Edit} {old new front removed back : Text}
    (divides : edit.Divides old new front removed back) {method : Method}
    (readsLines : method.ReadsLines) {line : Nat}
    (stopped : line = new.lines.length ∨ front.lineFeeds + edit.text.lineFeeds < line ∧
      line ≤ new.lines.length ∧
        (LineStates.ofScan (method.scan .normal old)).endState?
            (line - 1 + old.lines.length - new.lines.length) =
          some (method.after .normal (new.lines.take line))) :
    exists oldLine : Nat, (oldLine : Int) = line - ((new.lines.length : Int) - old.lines.length) ∧
      method.Meets old new oldLine line := by
  have behind : front.lineFeeds + edit.text.lineFeeds < line ∧ line ≤ new.lines.length := by
    have newLength := divides.length_lines_new
    rcases stopped with rfl | ⟨beyond, inside, -⟩
    · exact ⟨by omega, Nat.le_refl _⟩
    · exact ⟨beyond, inside⟩
  rcases divides.exists_old_line behind.1 behind.2 with ⟨oldLine, moved, oldBehind, within, sameBack⟩
  refine ⟨oldLine, moved, within, sameBack, fun more => ?_⟩
  rcases stopped with rfl | ⟨-, -, sameEnd⟩
  · exact absurd List.drop_length more
  · obtain ⟨before, rfl⟩ := Nat.exists_eq_add_one_of_ne_zero (Nat.ne_of_gt (Nat.zero_lt_of_lt oldBehind))
    have oldEnd := LineStates.endState?_ofScan readsLines (Nat.lt_of_succ_le within)
    rw [show line - 1 + old.lines.length - new.lines.length = before by omega] at sameEnd
    exact Option.some.inj (oldEnd.symm.trans sameEnd)

namespace Highlighter

variable {highlighter : Highlighter}

/-- One cached state for each line of the old text is enough, whatever the states are. -/
theorem exists_rescan_of_divides {old new front removed back : Text} {edit : Edit}
    (divides : edit.Divides old new front removed back) (oldStorable : old.IsStorable)
    {cached : LineStates} (counted : cached.count = old.lines.length) :
    exists result, highlighter.rescan new cached edit.inserted = some result := by
  have oldLength := divides.length_lines_old
  have newLength := divides.length_lines_new
  have storable := oldStorable.length_lines_le
  apply exists_rescan (by omega)
  · simpa [LineStates.isEmpty] using List.length_pos_iff.mp (show 0 < cached.count by omega)
  · exact Nat.le_add_right _ _
  · exact divides.isBoundary_stop.le_size
  · rw [divides.lineOf_start, divides.lineOf_stop]
    omega

/-- A line behind the rescanned ones, if there is one, is entered as it was in the old text. -/
theorem rescan_rejoins (readsLines : highlighter.method.ReadsLines)
    {old new front removed back : Text} {edit : Edit}
    {result : Rescan} (divides : edit.Divides old new front removed back)
    (oldStorable : old.IsStorable)
    (found : highlighter.rescan new (LineStates.ofScan (highlighter.scan .normal old))
      edit.inserted = some result) :
    exists first count,
      result.ScansLines highlighter.method new
          (highlighter.method.after .normal (new.lines.take first)) first count ∧
        result.Rejoins highlighter.method old new edit.delta := by
  have oldLength := divides.length_lines_old
  have oldStates : (LineStates.ofScan (highlighter.scan .normal old)).count = old.lines.length :=
    LineStates.count_ofScan readsLines old
  have start_lt : front.lineFeeds < old.lines.length := by omega
  have entered := LineStates.entryState?_ofScan readsLines start_lt
  rw [divides.take_lines, ← divides.lineOf_start] at entered
  rcases rescan_scansLines readsLines found entered
    (readsLines.quote_after (by decide) _) with ⟨count, scansLines, lineDelta, stopped⟩
  rw [Rescan.Stopped, divides.lineOf_start, divides.lineOf_stop, oldStates,
    ← Method.after_append, ← List.take_add] at stopped
  rw [divides.lineOf_start] at scansLines
  rw [oldStates] at lineDelta
  have positive := scansLines.positive
  have within := scansLines.within
  have linesStart := scansLines.lines_start
  have linesStop := scansLines.lines_stop
  rcases divides.exists_meets readsLines (stopped.imp_right fun ⟨beyond, sameEnd⟩ =>
    ⟨by omega, within, sameEnd⟩) with ⟨oldLine, moved, meets⟩
  -- numbers of old lines can be stored, so the moved one is not capped
  have storable := oldStorable.length_lines_le
  have oldStop : result.oldLines.stop = oldLine :=
    moveOffset_eq (by omega) (Nat.le_trans meets.line_le storable)
  have bytes : (old.lineStart oldLine : Int) = result.span.stop - edit.delta := by
    rw [divides.delta_eq, scansLines.span_stop]
    exact Text.lineStart_eq_of_drop_eq meets.back
  refine ⟨_, count, scansLines, ?_, ?_, ?_, ?_, ?_, ?_⟩
  · rw [oldStop, linesStop]
    exact meets
  · rw [linesStart]
    exact start_lt
  · rw [linesStart, divides.take_lines]
  · rw [oldStop, linesStop, moved, lineDelta]
  · have := old.lineStart_le_size oldLine
    rw [oldStop]
    exact moveOffset_eq (by omega) (Nat.le_trans this (Nat.le_of_lt oldStorable))
  · rw [oldStop, bytes]

end Highlighter

namespace Rescan

variable {result : Rescan} {method : Method} {old new : Text} {delta : Int} {entry : State}
  {first count : Nat}

theorem Rejoins.start_eq (rejoins : result.Rejoins method old new delta)
    (scansLines : result.ScansLines method new entry first count) :
    result.span.start = old.lineStart first := by
  have same := rejoins.front
  rw [scansLines.lines_start] at same
  rw [scansLines.span_start, Text.lineStart, Text.lineStart, same]

/-- The rescanned lines are entered in the state in which the old text entered them. -/
theorem Rejoins.entryState?_eq (rejoins : result.Rejoins method old new delta)
    (readsLines : method.ReadsLines)
    (scansLines : result.ScansLines method new entry first count) :
    (LineStates.ofScan (method.scan .normal old)).entryState? result.lines.start =
      some (method.after .normal (new.lines.take first)) := by
  rw [LineStates.entryState?_ofScan readsLines rejoins.start_lt, rejoins.front,
    scansLines.lines_start]

/-- In front of the rescanned lines the tokens are the old ones. -/
theorem Rejoins.restrict_front (rejoins : result.Rejoins method old new delta)
    (readsLines : method.ReadsLines)
    (scansLines : result.ScansLines method new entry first count) :
    Token.restrict ((method.scan .normal old).tokens 0) { start := 0, stop := result.span.start } =
      (method.scan .normal (new.lines.take first).flatten).tokens 0 := by
  have same := rejoins.front
  have inside := rejoins.start_lt
  rw [scansLines.lines_start] at same inside
  rw [rejoins.start_eq scansLines, readsLines.restrict_front old first inside, same]

/-- Behind the rescanned lines the tokens are the old ones, moved. -/
theorem Rejoins.restrict_back (rejoins : result.Rejoins method old new delta)
    (readsLines : method.ReadsLines) (newStorable : new.IsStorable)
    (scansLines : result.ScansLines method new entry first count) :
    (Token.restrict ((method.scan .normal old).tokens 0)
        { start := result.oldStop delta, stop := old.size }).map (·.shift delta) =
      (method.scan (method.after .normal (new.lines.take (first + count)))
        (new.lines.drop (first + count)).flatten).tokens result.span.stop := by
  have sameBack := rejoins.back
  have sameEntry := rejoins.entry
  have size := new.lineStart_add_size (first + count)
  rw [scansLines.lines_stop] at sameBack sameEntry
  rw [rejoins.oldStop, readsLines.restrict_back old, sameBack]
  by_cases ended : new.lines.drop (first + count) = []
  · have oldNothing := (method.covers_scan
      (method.after .normal (old.lines.take result.oldLines.stop)) []).tiles
        (old.lineStart result.oldLines.stop)
    have newNothing := (method.covers_scan
      (method.after .normal (new.lines.take (first + count))) []).tiles result.span.stop
    rw [ended, List.flatten_nil, oldNothing.eq_nil, newNothing.eq_nil, List.map_nil]
  · rw [sameEntry ended]
    apply Token.map_shift_place
    · rw [rejoins.bytes_moved, Int.sub_add_cancel]
    · have covers := method.covers_scan (method.after .normal (new.lines.take (first + count)))
        (new.lines.drop (first + count)).flatten
      have spelled : Lexeme.spell
          (method.scan (method.after .normal (new.lines.take (first + count)))
            (new.lines.drop (first + count)).flatten).lexemes =
              (new.lines.drop (first + count)).flatten := covers.text_eq
      rw [spelled, scansLines.span_stop, size]
      exact Nat.le_of_lt newStorable

theorem Rejoins.take_states (rejoins : result.Rejoins method old new delta)
    (readsLines : method.ReadsLines) :
    (LineStates.ofScan (method.scan .normal old)).states.take result.lines.start =
      (LineStates.ofScan (method.scan .normal new)).states.take result.lines.start := by
  rw [LineStates.states_ofScan readsLines, LineStates.states_ofScan readsLines,
    Method.take_lineEnds, Method.take_lineEnds, rejoins.front]

theorem Rejoins.drop_states (rejoins : result.Rejoins method old new delta)
    (readsLines : method.ReadsLines) :
    (LineStates.ofScan (method.scan .normal old)).states.drop result.oldLines.stop =
      (LineStates.ofScan (method.scan .normal new)).states.drop result.lines.stop := by
  rw [LineStates.states_ofScan readsLines, LineStates.states_ofScan readsLines,
    Method.drop_lineEnds, Method.drop_lineEnds, rejoins.back]
  by_cases ended : new.lines.drop result.lines.stop = []
  · rw [ended]
    rfl
  · rw [rejoins.entry ended]

end Rescan

namespace Document

/-- The document holds the tokens and states of a scan of its whole text. -/
structure IsScanned (document : Document) : Prop where
  tokens : document.tokens = (document.highlighter.scan .normal document.text).tokens 0
  cached : document.cached = LineStates.ofScan (document.highlighter.scan .normal document.text)

theorem IsScanned.tiles {document : Document} (isScanned : document.IsScanned) :
    Token.Tiles 0 document.size document.tokens := by
  have tiles := (document.highlighter.method.covers_scan .normal document.text).tiles 0
  rw [Nat.zero_add] at tiles
  rw [isScanned.tokens]
  exact tiles

variable {document : Document} {result : Rescan} {text : Text} {delta : Int} {first count : Nat}

theorem spliceTokens_eq (isScanned : document.IsScanned)
    (readsLines : document.highlighter.method.ReadsLines) (storable : text.IsStorable)
    (rejoins : result.Rejoins document.highlighter.method document.text text delta)
    (scansLines : result.ScansLines document.highlighter.method text
      (document.highlighter.method.after .normal (text.lines.take first)) first count) :
    document.spliceTokens result delta = (document.highlighter.scan .normal text).tokens 0 := by
  have entered := rejoins.entryState?_eq readsLines scansLines
  have last : result.states.getLast? =
      some (document.highlighter.method.after .normal (text.lines.take (first + count))) := by
    have present : (text.lines.drop first).take count ≠ [] := by
      have := scansLines.positive
      have := scansLines.inside
      rw [← List.length_pos_iff, List.length_take, List.length_drop]
      omega
    rw [scansLines.states, Method.getLast?_lineEnds _ present, ← Method.after_append,
      ← List.take_add]
  have joined := readsLines.join_range text count scansLines.inside
  have head := rejoins.restrict_front readsLines scansLines
  have kept := rejoins.restrict_back readsLines storable scansLines
  rw [Document.spliceTokens, isScanned.tiles.before_eq, isScanned.tiles.after_eq,
    isScanned.cached, isScanned.tokens]
  simp only [Highlighter.scan, entered, last, Option.any_some, head, scansLines.tokens,
    scansLines.span_stop, size, joined] at kept ⊢
  rw [kept]
  exact readsLines.join_tokens text (first + count)

theorem splice_cached (isScanned : document.IsScanned)
    (readsLines : document.highlighter.method.ReadsLines)
    (rejoins : result.Rejoins document.highlighter.method document.text text delta)
    (scansLines : result.ScansLines document.highlighter.method text
      (document.highlighter.method.after .normal (text.lines.take first)) first count) :
    document.cached.splice result.oldLines result.states =
      LineStates.ofScan (document.highlighter.scan .normal text) := by
  have front := rejoins.take_states readsLines
  have back := rejoins.drop_states readsLines
  have middle := scansLines.states
  rw [← Method.take_lineEnds, ← Method.drop_lineEnds,
    ← LineStates.states_ofScan readsLines] at middle
  rw [scansLines.lines_start] at front
  rw [scansLines.lines_stop] at back
  have oldStart : result.oldLines.start = first := scansLines.lines_start
  rw [LineStates.splice, isScanned.cached, oldStart]
  simp only [Highlighter.scan, front, middle, back]
  rw [← List.take_add, List.take_append_drop]

end Document
end Lexis
