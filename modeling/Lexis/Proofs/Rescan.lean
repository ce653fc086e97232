import Lexis.Proofs.LineStates
import Lexis.Rescan

namespace Lexis

/-!
What a rescan finds.

A rescan has an answer if there are enough cached lines for the edited ones,
whatever their states are (`rescan_eq_none_iff`).  It scans lines one after the
other (`rescan_goesOver`), and what it finds are the tokens and states of a scan
of those lines as one text (`GoesOver.scansLines`).  How many lines that are
depends on the cached states, and nothing else does: if the rescan began in the
right state, its tokens and states are those of the whole text
(`rescan_of_entry`).
-/

theorem moveOffset?_eq_some_iff {source target : Nat} {distance : Int} :
    moveOffset? source distance = some target ↔
      (source : Int) + distance = target ∧ target ≤ maxOffset := by
  simp only [moveOffset?]
  split
  · simp only [reduceCtorEq, false_iff]
    omega
  · simp only [Option.some.injEq]
    omega

namespace LineStates

/-- A line is settled if it is behind the edited ones and the cached state is right for it. -/
theorem settled?_eq_some_true {cached : LineStates} {editedLast line lineCount : Nat}
    {state : State}
    (settled : cached.settled? editedLast ((lineCount : Int) - cached.count) line state =
      some true) :
    editedLast ≤ line ∧ cached.endState? (line + cached.count - lineCount) = some state := by
  rw [settled?] at settled
  split at settled
  · exact absurd settled (by simp)
  next behind =>
  rcases Option.map_eq_some_iff.mp settled with ⟨oldLine, moved, same⟩
  have placed := (moveOffset?_eq_some_iff.mp moved).1
  rw [show line + cached.count - lineCount = oldLine by omega]
  exact ⟨Nat.le_of_not_lt behind, by simpa using same⟩

theorem exists_settled? {cached : LineStates} {editedLast line lineCount : Nat}
    (counted : cached.count ≤ maxOffset) (inside : line < lineCount)
    (enough : editedLast ≤ line -> lineCount ≤ line + cached.count) (state : State) :
    exists answer, cached.settled? editedLast ((lineCount : Int) - cached.count) line state =
      some answer := by
  rw [settled?]
  split
  · exact ⟨false, rfl⟩
  next behind =>
  have moved : moveOffset? line (-((lineCount : Int) - cached.count)) =
      some (line + cached.count - lineCount) := by
    have := enough (Nat.le_of_not_lt behind)
    exact moveOffset?_eq_some_iff.mpr ⟨by omega, by omega⟩
  exact ⟨_, by rw [moved, Option.map_some]⟩

end LineStates

namespace Rescan

/-- The result is that of scanning so many lines from a state on, as one text. -/
structure ScansLines (result : Rescan) (method : Method) (text : Text) (entry : State)
    (first count : Nat) : Prop where
  positive : 0 < count
  within : first + count ≤ text.lines.length
  lines_start : result.lines.start = first
  lines_stop : result.lines.stop = first + count
  span_start : result.span.start = text.lineStart first
  span_stop : result.span.stop = text.lineStart (first + count)
  tokens : result.tokens =
    (method.scan entry ((text.lines.drop first).take count).flatten).tokens (text.lineStart first)
  states : result.states = method.lineEnds entry ((text.lines.drop first).take count)

theorem ScansLines.inside {result : Rescan} {method : Method} {text : Text} {entry : State}
    {first count : Nat} (scansLines : result.ScansLines method text entry first count) :
    first < text.lines.length :=
  Nat.lt_of_lt_of_le (Nat.lt_add_of_pos_right scansLines.positive) scansLines.within

/-- Scanned from the state that the lines before them leave, they have the text's tokens. -/
theorem ScansLines.tokens_eq_restrict {result : Rescan} {method : Method} {text : Text}
    {first count : Nat} (readsLines : method.ReadsLines)
    (scansLines : result.ScansLines method text (method.after .normal (text.lines.take first))
      first count) :
    result.tokens = Token.restrict ((method.scan .normal text).tokens 0) result.span := by
  have inside : first < text.lines.length := scansLines.inside
  have frontLines := Text.isWholeLines_take_lines inside
  have entry := readsLines.endState_take_lines inside
  have noFeed : State.normal.quote? ≠ some '\n' := by decide
  have restricted := readsLines.restrict_tokens noFeed (text.lines.drop (first + count)).flatten
    (Text.isWholeLines_flatten frontLines) (text.isWholeLines_range first scansLines.positive) 0
  rw [← Text.eq_flatten_lines, entry, Nat.zero_add] at restricted
  have span : result.span =
      { start := text.lineStart first, stop := text.lineStart (first + count) } := by
    rw [← scansLines.span_start, ← scansLines.span_stop]
  rw [scansLines.tokens, span, Text.lineStart_add]
  exact restricted.symm

/-- The result is that of scanning so many lines one after the other, from a state on. -/
structure GoesOver (result : Rescan) (method : Method) (text : Text) (entry : State)
    (first count : Nat) : Prop where
  positive : 0 < count
  within : first + count ≤ text.lines.length
  lines : result.lines = { start := first, stop := first + count }
  span : result.span =
    { start := text.lineStart first, stop := text.lineStart (first + count) }
  tokens : result.tokens =
    method.tokensByLine (text.lineStart first) entry ((text.lines.drop first).take count)
  states : result.states = method.lineEnds entry ((text.lines.drop first).take count)

/--
So many lines from the first edited one on go to the end of the text, or their
last is behind the edit and ends in the state that is cached for it.
-/
def Stopped (method : Method) (text : Text) (cached : LineStates) (edited : Span) (entry : State)
    (count : Nat) : Prop :=
  text.lineOf edited.start + count = text.lines.length ∨
    text.lineOf edited.stop ≤ text.lineOf edited.start + count - 1 ∧
      cached.endState? (text.lineOf edited.start + count - 1 + cached.count - text.lines.length) =
        some (method.after entry ((text.lines.drop (text.lineOf edited.start)).take count))

/-- The lines may as well be scanned as one text. -/
theorem GoesOver.scansLines {result : Rescan} {method : Method} {text : Text} {entry : State}
    {first count : Nat} (goesOver : result.GoesOver method text entry first count)
    (readsLines : method.ReadsLines) (noFeed : entry.quote? ≠ some '\n') :
    result.ScansLines method text entry first count := by
  rcases goesOver with ⟨positive, within, lines, span, tokens, states⟩
  have present : (text.lines.drop first).take count ≠ [] := by
    rw [← List.length_pos_iff, List.length_take, List.length_drop]
    omega
  have whole : forall line, line ∈ ((text.lines.drop first).take count).dropLast ->
      Text.IsWholeLines line := by
    intro line member
    have shorter : (((text.lines.drop first).take count).dropLast) ⊆
        (text.lines.drop first).dropLast := by
      rw [List.dropLast_eq_take, List.dropLast_eq_take, List.take_take, List.length_take]
      exact List.take_subset_take_left _ (by omega)
    exact Text.isWholeLines_of_mem_dropLast_drop (by omega) (shorter member)
  have joined := readsLines.tokensByLine_eq noFeed (text.lineStart first) present whole
  exact ⟨positive, within, by rw [lines], by rw [lines], by rw [span], by rw [span],
    tokens.trans joined, states⟩

end Rescan

namespace Highlighter

variable {highlighter : Highlighter}

/--
The scanned lines end at the first that is settled or else with the last, and
each of them is scanned in the state that the one before it leaves.
-/
theorem scanLines_eq {settled? : Nat -> State -> Option Bool} {line offset : Nat} {state : State}
    {lines : List Text} {found : List Token × List State} (present : lines ≠ [])
    (scanned : highlighter.scanLines settled? line offset state lines = some found) :
    exists count, 0 < count ∧ count ≤ lines.length ∧
      found = (highlighter.method.tokensByLine offset state (lines.take count),
        highlighter.method.lineEnds state (lines.take count)) ∧
      (count = lines.length ∨
        settled? (line + count - 1) (highlighter.method.after state (lines.take count)) =
          some true) := by
  induction lines generalizing line offset state found with
  | nil => exact absurd rfl present
  | cons text texts ih =>
      have single : ((highlighter.scan state text).tokens offset,
          [(highlighter.scan state text).endState]) =
          (highlighter.method.tokensByLine offset state ((text :: texts).take 1),
            highlighter.method.lineEnds state ((text :: texts).take 1)) := by
        rw [List.take_succ_cons, List.take_zero, Method.tokensByLine, Method.tokensByLine,
          Token.join_nil_right]
        rfl
      rw [scanLines] at scanned
      by_cases last : texts.isEmpty = true
      · rw [if_pos last, Option.some_inj] at scanned
        refine ⟨1, Nat.one_pos, by simp, scanned.symm.trans single, Or.inl ?_⟩
        simpa using last
      rw [if_neg last] at scanned
      rcases Option.bind_eq_some_iff.mp scanned with ⟨settled, asked, scanned⟩
      cases settled with
      | true =>
          rw [if_pos rfl, Option.some_inj] at scanned
          exact ⟨1, Nat.one_pos, by simp, scanned.symm.trans single, Or.inr asked⟩
      | false =>
          rw [if_neg Bool.false_ne_true] at scanned
          rcases Option.bind_eq_some_iff.mp scanned with ⟨⟨later, states⟩, rest, scanned⟩
          have more : texts ≠ [] := by
            rintro rfl
            exact last rfl
          rcases ih more rest with ⟨count, -, within, same, ends⟩
          rcases Prod.mk.inj same with ⟨rfl, rfl⟩
          refine ⟨count + 1, Nat.succ_pos _, Nat.succ_le_succ within,
            (Option.some.inj scanned).symm, ?_⟩
          rw [List.length_cons, show line + (count + 1) - 1 = line + 1 + count - 1 by omega]
          exact ends.imp (congrArg (· + 1)) id

/-- All lines can be scanned if there is an answer for each of them but the last. -/
theorem exists_scanLines (highlighter : Highlighter) {settled? : Nat -> State -> Option Bool}
    {line : Nat} {lines : List Text} (offset : Nat) (state : State)
    (answers : forall place state, line ≤ place -> place + 1 < line + lines.length ->
      exists answer, settled? place state = some answer) :
    exists found, highlighter.scanLines settled? line offset state lines = some found := by
  induction lines generalizing line offset state with
  | nil => exact ⟨([], []), rfl⟩
  | cons text texts ih =>
      rw [scanLines]
      by_cases last : texts.isEmpty = true
      · exact ⟨_, if_pos last⟩
      rw [if_neg last]
      have more : 0 < texts.length := List.length_pos_iff.mpr (by simpa using last)
      rw [List.length_cons] at answers
      have later : forall place state, line + 1 ≤ place -> place + 1 < line + 1 + texts.length ->
          exists answer, settled? place state = some answer := by
        intro place state behind before
        exact answers place state (by omega) (by omega)
      rcases answers line (highlighter.scan state text).endState (Nat.le_refl _) (by omega) with
        ⟨settled, asked⟩
      rcases ih (offset + text.size) (highlighter.scan state text).endState later with
        ⟨⟨tokens, states⟩, rest⟩
      simp only [asked, rest, Option.bind_eq_bind, Option.bind_some]
      split
      · exact ⟨_, rfl⟩
      · exact ⟨_, rfl⟩

/-- What a rescan with an answer has found to be in order, and what it has scanned. -/
theorem rescan_eq_some {text : Text} {cached : LineStates} {edited : Span} {result : Rescan}
    (found : highlighter.rescan text cached edited = some result) :
    cached.isEmpty = false ∧ edited.start ≤ edited.stop ∧ edited.stop ≤ text.size ∧
      text.lines.length + text.lineOf edited.start ≤ cached.count + text.lineOf edited.stop ∧
      exists entry, cached.entryState? (text.lineOf edited.start) = some entry ∧
        highlighter.scanLines
            (cached.settled? (text.lineOf edited.stop) ((text.lines.length : Int) - cached.count))
            (text.lineOf edited.start) (text.lineStart (text.lineOf edited.start)) entry
            (text.lines.drop (text.lineOf edited.start)) =
          some (result.tokens, result.states) ∧
        result =
          { lines := ⟨text.lineOf edited.start, text.lineOf edited.start + result.states.length⟩
            span := ⟨text.lineStart (text.lineOf edited.start),
              text.lineStart (text.lineOf edited.start + result.states.length)⟩
            tokens := result.tokens
            states := result.states
            lineDelta := (text.lines.length : Int) - cached.count } := by
  simp only [rescan, Bool.or_eq_true, decide_eq_true_eq, ← Text.length_lines] at found
  split at found
  · exact absurd found (by simp)
  next accepted =>
  simp only [not_or, Nat.not_lt, Bool.not_eq_true] at accepted
  rcases accepted with ⟨⟨present, ordered⟩, within⟩
  rcases Option.bind_eq_some_iff.mp found with ⟨oldEditedLast, moved, found⟩
  split at found
  · exact absurd found (by simp)
  next enough =>
  rcases Option.bind_eq_some_iff.mp found with ⟨entry, entered, found⟩
  rcases Option.bind_eq_some_iff.mp found with ⟨⟨tokens, states⟩, scanned, found⟩
  rcases Option.some.inj found with rfl
  have placed := (moveOffset?_eq_some_iff.mp moved).1
  exact ⟨present, ordered, within, by omega, entry, entered, scanned, rfl⟩

/-- With enough cached lines there is an answer, since no line is moved out of them. -/
theorem exists_rescan {text : Text} {cached : LineStates} {edited : Span}
    (counted : cached.count ≤ maxOffset) (present : cached.isEmpty = false)
    (ordered : edited.start ≤ edited.stop) (within : edited.stop ≤ text.size)
    (enough : text.lines.length + text.lineOf edited.start ≤
      cached.count + text.lineOf edited.stop) :
    exists result, highlighter.rescan text cached edited = some result := by
  have last := text.lineOf_lt edited.stop
  have sameLine := Text.lineOf_mono ordered text
  have moved : moveOffset? (text.lineOf edited.stop) (-((text.lines.length : Int) - cached.count)) =
      some (text.lineOf edited.stop + cached.count - text.lines.length) :=
    moveOffset?_eq_some_iff.mpr ⟨by omega, by omega⟩
  have answers : forall line state, text.lineOf edited.start ≤ line ->
      line + 1 < text.lineOf edited.start + (text.lines.drop (text.lineOf edited.start)).length ->
      exists answer,
        cached.settled? (text.lineOf edited.stop) ((text.lines.length : Int) - cached.count) line
          state = some answer := by
    intro line state _ before
    rw [List.length_drop] at before
    exact LineStates.exists_settled? counted (by omega) (by omega) state
  have enters : text.lineOf edited.start < cached.count := by omega
  rcases LineStates.exists_entryState? enters with ⟨entry, entered⟩
  rcases highlighter.exists_scanLines (text.lineStart (text.lineOf edited.start)) entry answers with
    ⟨⟨tokens, states⟩, scanned⟩
  have inOrder : ¬ (cached.isEmpty || edited.stop < edited.start ||
      text.size < edited.stop) = true := by
    simp [present, ordered, within]
  have inCached : ¬ (text.lineOf edited.stop + cached.count - text.lines.length <
      text.lineOf edited.start || cached.count ≤
        text.lineOf edited.stop + cached.count - text.lines.length) = true := by
    simp only [Bool.or_eq_true, decide_eq_true_eq]
    omega
  simp only [rescan, ← Text.length_lines, moved, entered, scanned, Option.bind_eq_bind,
    Option.bind_some]
  rw [if_neg inOrder, if_neg inCached]
  exact ⟨_, rfl⟩

/--
There is no answer exactly if nothing is cached, the edited span is no span of
the text, or the cached lines are too few for the lines behind the edited ones.
-/
theorem rescan_eq_none_iff {text : Text} {cached : LineStates} {edited : Span}
    (counted : cached.count ≤ maxOffset) :
    highlighter.rescan text cached edited = none ↔
      cached.isEmpty = true ∨ edited.stop < edited.start ∨ text.size < edited.stop ∨
        cached.count + (text.lineOf edited.stop - text.lineOf edited.start) <
          text.lines.length := by
  constructor
  · intro refused
    refine Decidable.byContradiction fun accepted => ?_
    simp only [not_or, Nat.not_lt, Bool.not_eq_true] at accepted
    rcases accepted with ⟨present, ordered, within, enough⟩
    have sameLine := Text.lineOf_mono ordered text
    rcases exists_rescan counted present ordered within (by omega) with ⟨result, found⟩
    exact absurd (refused.symm.trans found) (by simp)
  · intro refused
    cases found : highlighter.rescan text cached edited with
    | none => rfl
    | some result =>
        rcases rescan_eq_some found with ⟨present, ordered, within, enough, -⟩
        have sameLine := Text.lineOf_mono ordered text
        rcases refused with empty | inverted | beyond | short
        · exact absurd (present.symm.trans empty) Bool.false_ne_true
        · omega
        · omega
        · omega

/-- An answer goes over the lines from the first edited one on, and stops where it may. -/
theorem rescan_goesOver {text : Text} {cached : LineStates} {edited : Span} {result : Rescan}
    (found : highlighter.rescan text cached edited = some result) :
    exists entry count, cached.entryState? (text.lineOf edited.start) = some entry ∧
      result.GoesOver highlighter.method text entry (text.lineOf edited.start) count ∧
      result.lineDelta = (text.lines.length : Int) - cached.count ∧
      Rescan.Stopped highlighter.method text cached edited entry count := by
  rcases rescan_eq_some found with ⟨-, -, -, -, entry, entered, scanned, shape⟩
  have inside := text.lineOf_lt edited.start
  have present : text.lines.drop (text.lineOf edited.start) ≠ [] := by
    rw [← List.length_pos_iff, List.length_drop]
    omega
  rcases scanLines_eq present scanned with ⟨count, positive, within, same, ends⟩
  rcases Prod.mk.inj same with ⟨tokens, states⟩
  rw [List.length_drop] at within ends
  have length : result.states.length = count := by
    rw [states, Method.length_lineEnds, List.length_take, List.length_drop]
    omega
  rw [length] at shape
  refine ⟨entry, count, entered, ⟨positive, by omega, ?_, ?_, tokens, states⟩, ?_, ?_⟩
  · rw [shape]
  · rw [shape]
  · rw [shape]
  · rcases ends with all | settled
    · exact Or.inl (by omega)
    · exact Or.inr (LineStates.settled?_eq_some_true settled)

theorem rescan_scansLines (readsLines : highlighter.method.ReadsLines) {text : Text}
    {cached : LineStates} {edited : Span} {result : Rescan} {entry : State}
    (found : highlighter.rescan text cached edited = some result)
    (entered : cached.entryState? (text.lineOf edited.start) = some entry)
    (noFeed : entry.quote? ≠ some '\n') :
    exists count,
      result.ScansLines highlighter.method text entry (text.lineOf edited.start) count ∧
        result.lineDelta = (text.lines.length : Int) - cached.count ∧
        Rescan.Stopped highlighter.method text cached edited entry count := by
  rcases rescan_goesOver found with ⟨other, count, cachedEntry, goesOver, lineDelta, stopped⟩
  rcases Option.some.inj (entered.symm.trans cachedEntry) with rfl
  exact ⟨count, goesOver.scansLines readsLines noFeed, lineDelta, stopped⟩

/-- All languages but plain text are read line by line. -/
theorem readsLines_ofLanguage (language : Language)
    (scanned : (ofLanguage language).method.isPlain = false) :
    (ofLanguage language).method.ReadsLines := by
  cases language <;> first | exact absurd scanned (by decide) | decide

/--
A rescan needs no more of the cached states than the one that it begins in.  If
that is the state in which a scan of the whole text enters the first edited
line, then what it finds is what that scan finds in the rescanned lines, however
many these are.
-/
theorem rescan_of_entry (language : Language)
    (scanned : (ofLanguage language).method.isPlain = false) (text : Text) (cached : LineStates)
    (edited : Span) (result : Rescan)
    (found : (ofLanguage language).rescan text cached edited = some result)
    (entered : cached.entryState? (text.lineOf edited.start) =
      (LineStates.ofScan ((ofLanguage language).scan .normal text)).entryState?
        (text.lineOf edited.start)) :
    result.lines.start = text.lineOf edited.start ∧ result.lines.start < result.lines.stop ∧
      result.lines.stop ≤ text.lineFeeds + 1 ∧
      result.span =
        { start := text.lineStart result.lines.start, stop := text.lineStart result.lines.stop } ∧
      result.tokens = Token.restrict ((ofLanguage language).tokenize text) result.span ∧
      result.states =
        (((ofLanguage language).scan .normal text).endStates.take result.lines.stop).drop
          result.lines.start := by
  have readsLines := readsLines_ofLanguage language scanned
  have noFeed : State.normal.quote? ≠ some '\n' := by decide
  have states := readsLines.endStates_scan_normal text
  have entry := LineStates.entryState?_ofScan readsLines (text.lineOf_lt edited.start)
  rcases rescan_scansLines readsLines found (entered.trans entry)
    (readsLines.quote_after noFeed _) with ⟨count, scansLines, -, -⟩
  have tokens := scansLines.tokens_eq_restrict readsLines
  rcases scansLines with ⟨positive, within, start, stop, spanStart, spanStop, -, ends⟩
  rw [Text.length_lines] at within
  rw [start, stop, ← spanStart, ← spanStop]
  refine ⟨rfl, Nat.lt_add_of_pos_right positive, within, rfl, tokens, ?_⟩
  rw [ends, scan, states, Method.take_lineEnds, Method.drop_lineEnds, List.take_take,
    List.drop_take, Nat.min_eq_left (Nat.le_add_right _ _), Nat.add_sub_cancel_left]

/-- Only the entry of the line before the edit is right, and the rescan ends a comment there. -/
theorem rescan_of_entry_in_comment :
    let text : Text := ['/', '*', '\n', '*', '/', '+', '\n']
    let cached : LineStates := ⟨[.blockComment, .fence, .fence]⟩
    let result : Rescan :=
      { lines := ⟨1, 3⟩
        span := ⟨3, 7⟩
        tokens := [⟨.comment, 3, 5⟩, ⟨.operator, 5, 6⟩, ⟨.newline, 6, 7⟩]
        states := [.normal, .normal]
        lineDelta := 0 }
    (ofLanguage .c).method.isPlain = false ∧
      (ofLanguage .c).rescan text cached ⟨3, 3⟩ = some result ∧
      cached.entryState? (text.lineOf 3) =
        (LineStates.ofScan ((ofLanguage .c).scan .normal text)).entryState? (text.lineOf 3) ∧
      result.tokens = Token.restrict ((ofLanguage .c).tokenize text) ⟨3, 7⟩ := by
  intro text cached result
  have scanned : (ofLanguage .c).method.isPlain = false := by decide
  have found : (ofLanguage .c).rescan text cached ⟨3, 3⟩ = some result := by decide +kernel
  have entered : cached.entryState? (text.lineOf 3) =
      (LineStates.ofScan ((ofLanguage .c).scan .normal text)).entryState? (text.lineOf 3) := by
    decide +kernel
  obtain ⟨-, -, -, -, tokens, -⟩ :=
    rescan_of_entry .c scanned text cached ⟨3, 3⟩ result found entered
  exact ⟨scanned, found, entered, tokens⟩

end Highlighter
end Lexis
