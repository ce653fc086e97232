import Lexis.Proofs.Rescan

namespace Lexis

/-!
Rescans with any cached states.

The cached states may be those of another text.  A rescan then finds the wrong
tokens, but it keeps to the lines that it has: what it answers can be put in
the place of cached lines, and there is then one state for each line of the
text again.  It has no answer only where that is impossible
(`rescan_none_or_fits`).
-/

/-- The result is one for the lines of the text from the first edited one on. -/
structure Rescan.Fits (result : Rescan) (text : Text) (cached : LineStates) (edited : Span) :
    Prop where
  start : result.lines.start = text.lineOf edited.start
  editedLast : text.lineOf edited.stop < result.lines.stop
  inside : result.lines.stop ≤ text.lineFeeds + 1
  states : result.states.length = result.lines.length
  lineDelta : result.lineDelta = ((text.lineFeeds + 1 : Nat) : Int) - cached.count
  span : result.span =
    { start := text.lineStart result.lines.start, stop := text.lineStart result.lines.stop }
  tiles : Token.Tiles result.span.start result.span.stop result.tokens
  boundaries : forall token, token ∈ result.tokens ->
    text.IsBoundary token.start ∧ text.IsBoundary token.stop
  oldOrdered : result.oldLines.start ≤ result.oldLines.stop
  oldInside : result.oldLines.stop ≤ cached.count
  count_splice : (cached.splice result.oldLines result.states).count = text.lineFeeds + 1

namespace Rescan

variable {result : Rescan} {method : Method} {text : Text} {entry : State} {first count : Nat}

theorem GoesOver.length_states (goesOver : result.GoesOver method text entry first count) :
    result.states.length = count := by
  have within := goesOver.within
  rw [goesOver.states, Method.length_lineEnds, List.length_take, List.length_drop]
  omega

theorem GoesOver.partitions (goesOver : result.GoesOver method text entry first count) :
    Token.Partitions (Text.size (text.lines.take first).flatten)
      ((text.lines.drop first).take count).flatten result.tokens := by
  rw [goesOver.tokens]
  exact Method.partitions_tokensByLine _ _ _

/-- The tokens lie one after the other over the bytes of the lines. -/
theorem GoesOver.tiles (goesOver : result.GoesOver method text entry first count) :
    Token.Tiles result.span.start result.span.stop result.tokens := by
  have tiles := goesOver.partitions.tiles
  rw [goesOver.span, Text.lineStart_add]
  exact tiles

theorem GoesOver.boundaries (goesOver : result.GoesOver method text entry first count)
    {token : Token} (member : token ∈ result.tokens) :
    text.IsBoundary token.start ∧ text.IsBoundary token.stop := by
  have whole := text.eq_flatten_lines first count
  have inside := goesOver.partitions.isBoundary_append
    (text.lines.drop (first + count)).flatten member
  rw [← whole] at inside
  exact inside

/-- The lines that are replaced are as many fewer as the cached ones are fewer than the text's. -/
theorem GoesOver.oldLines_eq (goesOver : result.GoesOver method text entry first count)
    {cached : LineStates} (counted : cached.count ≤ maxOffset)
    (lineDelta : result.lineDelta = (text.lines.length : Int) - cached.count)
    (enough : text.lines.length ≤ first + count + cached.count) :
    result.oldLines =
      { start := first, stop := first + count + cached.count - text.lines.length } := by
  have within := goesOver.within
  have moved : moveOffset result.lines.stop (-result.lineDelta) =
      first + count + cached.count - text.lines.length := by
    apply moveOffset_eq
    · rw [goesOver.lines, lineDelta]
      simp only
      omega
    · omega
  rw [oldLines, moved, goesOver.lines]

end Rescan

namespace Highlighter

variable {highlighter : Highlighter}

theorem rescan_fits {text : Text} {cached : LineStates} {edited : Span} {result : Rescan}
    (counted : cached.count ≤ maxOffset)
    (found : highlighter.rescan text cached edited = some result) :
    result.Fits text cached edited := by
  rcases rescan_goesOver found with ⟨entry, count, -, goesOver, lineDelta, stopped⟩
  rcases rescan_eq_some found with ⟨-, ordered, -, enough, -⟩
  have sameLine := Text.lineOf_mono ordered text
  have lastLine := text.lineOf_lt edited.stop
  have within := goesOver.within
  have length := goesOver.length_states
  have lines : text.lines.length = text.lineFeeds + 1 := Text.length_lines text
  have editedLast : text.lineOf edited.stop < text.lineOf edited.start + count := by
    rcases stopped with all | ⟨beyond, -⟩
    · omega
    · have := goesOver.positive
      omega
  have old := goesOver.oldLines_eq counted lineDelta (by omega)
  constructor
  · rw [goesOver.lines]
  · rw [goesOver.lines]
    exact editedLast
  · rw [goesOver.lines, ← lines]
    exact within
  · rw [length, goesOver.lines, Span.length, Nat.add_sub_cancel_left]
  · rw [lineDelta, lines]
  · rw [goesOver.span, goesOver.lines]
  · exact goesOver.tiles
  · exact fun token member => goesOver.boundaries member
  · rw [old]
    simp only
    omega
  · rw [old]
    simp only
    omega
  · rw [old, LineStates.splice, LineStates.count]
    simp only [List.length_append, List.length_take, List.length_drop, length]
    have cachedLength : cached.states.length = cached.count := rfl
    omega

/--
There is no rescan exactly if nothing is cached, the edited span is no span of
the text, or the cached lines are too few for the lines behind the edited ones.
Any other rescan, of whatever states are cached and as many as can be stored,
goes from the first edited line to behind the last one, tells the states and
tokens of these lines without a gap, and leaves one state for each line of the
text when it is put in the place of the old lines.
-/
theorem rescan_none_or_fits (highlighter : Highlighter) (text : Text) (cached : LineStates)
    (edited : Span) (counted : cached.count ≤ maxOffset) :
    (highlighter.rescan text cached edited = none ↔
      cached.isEmpty = true ∨ edited.stop < edited.start ∨ text.size < edited.stop ∨
        cached.count + (text.lineOf edited.stop - text.lineOf edited.start) <
          text.lineFeeds + 1) ∧
      forall result, highlighter.rescan text cached edited = some result ->
        result.Fits text cached edited := by
  constructor
  · rw [← Text.length_lines]
    exact rescan_eq_none_iff counted
  · intro result found
    exact rescan_fits counted found

/-- The cached states are of a longer text, and the rescan stops where one of them fits. -/
theorem rescan_none_or_fits_of_longer_text :
    let text : Text := ['x', '\n', '*', '/', 'é', '\n', '"', '\n']
    let cached : LineStates := ⟨[.blockComment, .fence, .fence, .normal, .fence, .fence]⟩
    let result : Rescan :=
      { lines := ⟨1, 2⟩
        span := ⟨2, 7⟩
        tokens := [⟨.comment, 2, 4⟩, ⟨.variableName, 4, 6⟩, ⟨.newline, 6, 7⟩]
        states := [.normal]
        lineDelta := -2 }
    cached.count ≤ maxOffset ∧
      (ofLanguage .c).rescan text cached ⟨4, 6⟩ = some result ∧ result.oldLines = ⟨1, 4⟩ ∧
        result.Fits text cached ⟨4, 6⟩ := by
  intro text cached result
  have counted : cached.count ≤ maxOffset := by decide
  have found : (ofLanguage .c).rescan text cached ⟨4, 6⟩ = some result := by decide +kernel
  have fits := (rescan_none_or_fits (ofLanguage .c) text cached ⟨4, 6⟩ counted).2 result found
  exact ⟨counted, found, by decide, fits⟩

end Highlighter
end Lexis
