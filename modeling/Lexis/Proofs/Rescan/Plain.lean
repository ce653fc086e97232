import Lexis.Proofs.Document.Splice
import Lexis.Proofs.Rescan.Extent

namespace Lexis

/-!
Rescans of plain text.

A plain text is a single token, but no line of it leaves a state, and only inside
of an open construct are lines joined.  So a rescan finds one token for each of its
lines that is not empty, and these are the tokens of the whole text only if there
is at most one of them (`Highlighter.rescan_plain_by_lines`).
-/

/-- The tokens of a span of plain text: one, unless the span is empty. -/
def Token.plainIn (span : Span) : List Token :=
  if span.isEmpty then [] else [{ category := .plain, start := span.start, stop := span.stop }]

/-- The bytes of a line, its line feed included. -/
def Text.lineSpan (line : Nat) (text : Text) : Span :=
  { start := text.lineStart line, stop := text.lineStart (line + 1) }

namespace Token

theorem plainIn_of_le {span : Span} (empty : span.stop ≤ span.start) : plainIn span = [] := by
  rw [plainIn, Span.isEmpty, if_pos (decide_eq_true empty)]

theorem plainIn_of_lt {span : Span} (nonempty : span.start < span.stop) :
    plainIn span = [{ category := .plain, start := span.start, stop := span.stop }] := by
  rw [plainIn, Span.isEmpty, if_neg (by simpa using nonempty)]

theorem plainIn_eq_nil_iff {span : Span} : plainIn span = [] ↔ span.stop ≤ span.start := by
  refine ⟨fun nothing => Nat.le_of_not_lt fun nonempty => ?_, plainIn_of_le⟩
  rw [plainIn_of_lt nonempty] at nothing
  exact absurd nothing (List.cons_ne_nil _ _)

theorem length_plainIn_le (span : Span) : (plainIn span).length ≤ 1 := by
  rw [plainIn]
  split
  · exact Nat.zero_le _
  · exact Nat.le_refl _

/-- A plain text's token is cut down to a span in it, unless the span is empty inside of it. -/
theorem restrict_plainIn {span : Span} {size : Nat} (within : span.stop ≤ size)
    (reaches : span.start < span.stop ∨ span.start = size) :
    restrict (plainIn { start := 0, stop := size }) span = plainIn span := by
  rcases reaches with nonempty | atEnd
  · have positive : 0 < size := by omega
    rw [plainIn_of_lt positive, plainIn_of_lt nonempty, restrict_cons, if_pos]
    · simp only [clip, Nat.zero_max, Nat.min_eq_right within]
      rfl
    · simp only [overlaps_iff]
      omega
  · have empty : plainIn span = [] := plainIn_of_le (atEnd.symm ▸ within)
    rw [empty]
    apply restrict_of_outside
    intro token member
    rw [plainIn] at member
    split at member
    · exact absurd member List.not_mem_nil
    · rw [List.mem_singleton.mp member, atEnd]
      exact Or.inr (Nat.le_refl _)

end Token

namespace Method

theorem tokens_scanPlain (text : Text) (offset : Nat) :
    (scanPlain text).tokens offset =
      Token.plainIn { start := offset, stop := offset + text.size } := by
  by_cases empty : text = []
  · subst empty
    rw [Token.plainIn_of_le (Nat.le_refl _)]
    rfl
  · rw [Token.plainIn_of_lt (Nat.lt_add_of_pos_right (Text.size_pos empty))]
    simp [scanPlain, empty, Scan.tokens, Lexeme.place]

/-- Nothing is open between the lines, so each of them keeps a token of its own. -/
theorem tokensByLine_plain (text : Text) (state : State) {first count : Nat}
    (within : first + count ≤ text.lines.length) :
    plain.tokensByLine (text.lineStart first) state ((text.lines.drop first).take count) =
      (List.range' first count).flatMap fun line => Token.plainIn (text.lineSpan line) := by
  induction count generalizing first state with
  | zero =>
      rw [List.take_zero]
      rfl
  | succ count ih =>
      have inside : first < text.lines.length := by omega
      have next := Text.lineStart_succ inside
      have behind : first + 1 + count ≤ text.lines.length := by omega
      have others := ih .normal behind
      rw [next] at others
      rw [List.drop_eq_getElem_cons inside, List.take_succ_cons, tokensByLine, List.range'_succ,
        List.flatMap_cons, ← others, Text.lineSpan, next, ← tokens_scanPlain]
      exact Token.join_false _ _

theorem after_plain (state : State) {lines : List Text} (present : lines ≠ []) :
    plain.after state lines = .normal := by
  induction lines generalizing state with
  | nil => exact absurd rfl present
  | cons line lines ih =>
      by_cases single : lines = []
      · rw [single]
        rfl
      · exact ih .normal single

theorem endState?_scanPlain {text : Text} {line : Nat} (inside : line < text.lines.length) :
    (LineStates.ofScan (scanPlain text)).endState? line = some .normal := by
  rw [Text.length_lines] at inside
  rw [LineStates.endState?, LineStates.ofScan, Scan.endStates, lineStates_scanPlain]
  have all : List.replicate text.lineFeeds State.normal ++ [(scanPlain text).endState] =
      List.replicate (text.lineFeeds + 1) .normal := List.replicate_succ'.symm
  rw [all, List.getElem?_replicate_of_lt inside]

end Method

/-- Only the last line of a text can be empty, with nothing behind its start. -/
theorem Text.plainIn_lineSpan_eq_nil_iff {text : Text} {line : Nat}
    (inside : line < text.lines.length) :
    Token.plainIn (text.lineSpan line) = [] ↔
      line + 1 = text.lines.length ∧ text.lineStart line = text.size := by
  rw [Token.plainIn_eq_nil_iff, lineSpan]
  constructor
  · intro nothing
    have last : line + 1 = text.lines.length := by
      refine Nat.le_antisymm inside (Nat.le_of_not_lt fun before => ?_)
      exact absurd nothing (Nat.not_le_of_lt (lineStart_lt before))
    rw [last, lineStart_length_lines] at nothing
    exact ⟨last, Nat.le_antisymm (text.lineStart_le_size line) nothing⟩
  · rintro ⟨-, ended⟩
    simp only [ended]
    exact text.lineStart_le_size (line + 1)

/-- The lines of a range have one token together just if there is no more than one nonempty line. -/
theorem Text.flatMap_plainIn_eq_iff {text : Text} {first count : Nat} (positive : 0 < count)
    (within : first + count ≤ text.lines.length) :
    ((List.range' first count).flatMap fun line => Token.plainIn (text.lineSpan line)) =
        Token.plainIn { start := text.lineStart first, stop := text.lineStart (first + count) } ↔
      count = 1 ∨ count = 2 ∧ text.lineStart (first + 1) = text.size := by
  constructor
  · intro single
    rcases count with _ | _ | count
    · exact absurd positive (Nat.lt_irrefl _)
    · exact Or.inl rfl
    · have nonempty : text.lineStart first < text.lineStart (first + 1) := lineStart_lt (by omega)
      have short := Token.length_plainIn_le
        { start := text.lineStart first, stop := text.lineStart (first + (count + 1 + 1)) }
      rw [← single, List.range'_succ, List.range'_succ, List.flatMap_cons, List.flatMap_cons,
        lineSpan, Token.plainIn_of_lt nonempty, List.length_append, List.length_append,
        List.length_singleton] at short
      have nothing : Token.plainIn (text.lineSpan (first + 1)) = [] :=
        List.length_eq_zero_iff.mp (by omega)
      rcases (plainIn_lineSpan_eq_nil_iff (by omega)).mp nothing with ⟨last, ended⟩
      exact Or.inr ⟨by omega, ended⟩
  · rintro (rfl | ⟨rfl, ended⟩)
    · exact List.append_nil _
    · have last : first + 2 = text.lines.length := by
        refine Nat.le_antisymm within (Nat.le_of_not_lt fun before => ?_)
        exact absurd (ended ▸ lineStart_lt before) (Nat.not_lt_of_ge (text.lineStart_le_size _))
      have nothing : Token.plainIn (text.lineSpan (first + 1)) = [] :=
        (plainIn_lineSpan_eq_nil_iff within).mpr ⟨last, ended⟩
      rw [List.range'_succ, List.range'_succ, List.flatMap_cons, List.flatMap_cons, nothing,
        lineSpan, ended, last, lineStart_length_lines]
      exact List.append_nil _

/-- Cut down to a range of lines, the token of a plain text is that of the range. -/
theorem Text.restrict_plainIn_lines (text : Text) (first : Nat) {count : Nat} (positive : 0 < count) :
    Token.restrict (Token.plainIn { start := 0, stop := text.size })
        { start := text.lineStart first, stop := text.lineStart (first + count) } =
      Token.plainIn { start := text.lineStart first, stop := text.lineStart (first + count) } := by
  have apart := text.lineStart_add first count
  apply Token.restrict_plainIn (text.lineStart_le_size _)
  rcases text.isWholeLines_range first positive with ⟨-, present⟩ | nothing
  · refine Or.inl (apart ▸ ?_)
    exact Nat.lt_add_of_pos_right (size_pos present)
  · have ended := text.lineStart_add_size (first + count)
    rw [nothing, size_nil, Nat.add_zero] at ended
    rw [ended]
    exact Nat.lt_or_eq_of_le (text.lineStart_le_size first)

/-- The inserted text is on one line, or it is a line that has been put to the end of the text. -/
def Edit.StaysOnLine (edit : Edit) (old : Text) : Prop :=
  exists line, '\n' ∉ line ∧
    (edit.text = line ∨ edit.text = line ++ ['\n'] ∧ edit.span.stop = old.size)

theorem Edit.Divides.stop_eq_size_iff {edit : Edit} {old new front removed back : Text}
    (divides : edit.Divides old new front removed back) :
    edit.span.stop = old.size ↔ back = [] := by
  rw [divides.span_eq, divides.old_eq, Text.size_append, Text.size_append, ← Text.size_eq_zero_iff]
  simp only
  omega

/-- The first line feed of the inserted text parts what is before it from what follows. -/
theorem Edit.Divides.lineStart_add_size_behind {edit : Edit}
    {old new front removed back line rest : Text} (divides : edit.Divides old new front removed back)
    (inserted : edit.text = line ++ '\n' :: rest) (inLine : '\n' ∉ line) :
    new.lineStart (front.lineFeeds + 1) + (rest ++ back).size = new.size := by
  have feeds : line.lineFeeds = 0 := List.count_eq_zero_of_not_mem inLine
  have parts : new = front ++ line ++ '\n' :: (rest ++ back) := by
    rw [divides.new_eq, inserted, List.append_assoc, List.append_assoc, List.cons_append]
  have behind := Text.lineStart_behind (front ++ line) (rest ++ back)
  rw [Text.lineFeeds_append, feeds, Nat.add_zero, ← parts] at behind
  rw [behind, parts, Text.size_append _ ('\n' :: _), Text.size_cons, Nat.add_assoc]
  rfl

theorem Edit.Divides.staysOnLine_iff {edit : Edit} {old new front removed back : Text}
    (divides : edit.Divides old new front removed back) :
    edit.StaysOnLine old ↔ edit.text.lineFeeds + 1 = 1 ∨
      edit.text.lineFeeds + 1 = 2 ∧ new.lineStart (front.lineFeeds + 1) = new.size := by
  constructor
  · rintro ⟨line, inLine, same | ⟨same, atEnd⟩⟩
    · exact Or.inl (by rw [same, Text.lineFeeds, List.count_eq_zero_of_not_mem inLine])
    · have feeds : line.lineFeeds = 0 := List.count_eq_zero_of_not_mem inLine
      have behind := divides.lineStart_add_size_behind same inLine
      rw [divides.stop_eq_size_iff.mp atEnd] at behind
      exact Or.inr ⟨by rw [same, Text.lineFeeds_append, feeds]; rfl, behind⟩
  · rintro (none | ⟨one, ended⟩)
    · exact ⟨edit.text, List.count_eq_zero.mp (Nat.succ.inj none), Or.inl rfl⟩
    · have member : '\n' ∈ edit.text :=
        List.count_pos_iff.mp (Nat.lt_of_lt_of_eq Nat.one_pos (Nat.succ.inj one).symm)
      rcases List.eq_append_cons_of_mem member with ⟨line, rest, same, inLine⟩
      have behind := divides.lineStart_add_size_behind same inLine
      have nothing : rest ++ back = [] := Text.size_eq_zero_iff.mp (by omega)
      rcases List.append_eq_nil_iff.mp nothing with ⟨rfl, noBack⟩
      exact ⟨line, inLine, Or.inr ⟨same, divides.stop_eq_size_iff.mpr noBack⟩⟩

namespace Highlighter

variable {highlighter : Highlighter}

/-- All states are alike, so a rescan of plain text ends with the last edited line. -/
theorem rescan_plain (plain : highlighter.method = .plain) {old new front removed back : Text}
    {edit : Edit} (divides : edit.Divides old new front removed back) (storable : old.IsStorable) :
    exists result,
      highlighter.rescan new (LineStates.ofScan (highlighter.scan .normal old)) edit.inserted =
          some result ∧
        exists entry, result.GoesOver .plain new entry front.lineFeeds
          (edit.text.lineFeeds + 1) := by
  have oldLength := divides.length_lines_old
  have newLength := divides.length_lines_new
  have scanned : highlighter.scan .normal old = Method.scanPlain old := by
    rw [scan, plain]
    rfl
  have counted : (LineStates.ofScan (Method.scanPlain old)).count = old.lines.length := by
    rw [Method.count_scanPlain, Text.length_lines]
  have cachedStorable : (LineStates.ofScan (Method.scanPlain old)).count ≤ maxOffset := by
    rw [counted]
    exact storable.length_lines_le
  rw [scanned]
  rcases exists_rescan_of_divides divides storable counted with ⟨result, found⟩
  rcases rescan_goesOver found with ⟨entry, count, entered, goesOver, -, -⟩
  have behind := (rescan_fits cachedStorable found).editedLast
  have notBeyond : ¬ edit.text.lineFeeds + 1 < count := by
    intro beyond
    apply rescan_goesOn found entered goesOver (Nat.succ_pos _) beyond
    have present : (new.lines.drop front.lineFeeds).take (edit.text.lineFeeds + 1) ≠ [] := by
      rw [← List.length_pos_iff, List.length_take, List.length_drop]
      omega
    rw [Rescan.Stopped, divides.lineOf_start, divides.lineOf_stop, plain, counted,
      Method.after_plain _ present]
    exact Or.inr ⟨Nat.le_refl _, Method.endState?_scanPlain (by omega)⟩
  rw [plain, divides.lineOf_start] at goesOver
  rw [goesOver.lines, divides.lineOf_stop] at behind
  simp only at behind
  obtain rfl : count = edit.text.lineFeeds + 1 := by omega
  exact ⟨result, found, entry, goesOver⟩

/--
A rescan of plain text is about the edited lines only and finds one token for each
of them that is not empty.  A scan of the whole text has one token for all of them
together.  So the two agree just if the inserted text stays on one line, or ends
with the only line feed that it has and with the text.
-/
theorem rescan_plain_by_lines {old : Text} {edit : Edit} (fits : edit.Fits old)
    (storable : old.IsStorable) :
    let plain := ofLanguage? none
    let new := edit.applyTo old
    exists result,
      plain.rescan new (LineStates.ofScan (plain.scan .normal old)) edit.inserted = some result ∧
        result.lines =
          { start := new.lineOf edit.inserted.start
            stop := new.lineOf edit.inserted.stop + 1 } ∧
        result.span =
          { start := new.lineStart result.lines.start
            stop := new.lineStart result.lines.stop } ∧
        result.tokens = ((List.range' result.lines.start result.lines.length).flatMap fun line =>
          Token.plainIn (new.lineSpan line)) ∧
        Token.restrict (plain.tokenize new) result.span = Token.plainIn result.span ∧
        (result.tokens = Token.restrict (plain.tokenize new) result.span ↔
          edit.StaysOnLine old) := by
  intro plain new
  obtain ⟨front, removed, back, divides⟩ : exists front removed back,
      edit.Divides old new front removed back := Edit.divides_of_accepted fits.error?_eq
  rcases rescan_plain (rfl : plain.method = .plain) divides storable with
    ⟨result, found, entry, goesOver⟩
  have lines := goesOver.lines
  have span := goesOver.span
  have tokens := goesOver.tokens.trans (Method.tokensByLine_plain new entry goesOver.within)
  have whole : Token.restrict (plain.tokenize new) result.span = Token.plainIn result.span := by
    have tokenized : plain.tokenize new = Token.plainIn { start := 0, stop := 0 + new.size } :=
      Method.tokens_scanPlain new 0
    rw [tokenized, Nat.zero_add, span]
    exact new.restrict_plainIn_lines front.lineFeeds goesOver.positive
  refine ⟨result, found, ?_, ?_, ?_, whole, ?_⟩
  · rw [lines, divides.lineOf_start, divides.lineOf_stop]
    rfl
  · rw [span, lines]
  · rw [tokens, lines]
    simp only [Span.length, Nat.add_sub_cancel_left]
  · rw [whole, tokens, span, divides.staysOnLine_iff]
    exact Text.flatMap_plainIn_eq_iff goesOver.positive goesOver.within

/-- Three lines take the place of a line feed, and each of them has a token of its own. -/
theorem rescan_plain_by_lines_of_three_lines :
    let plain := ofLanguage? none
    let old : Text := ['é', '\n', 'b', '\n']
    let edit : Edit := { span := ⟨2, 3⟩, text := ['ü', '\n', '\n', 'x'] }
    let new := edit.applyTo old
    let result : Rescan :=
      { lines := ⟨0, 3⟩
        span := ⟨0, 9⟩
        tokens := [⟨.plain, 0, 5⟩, ⟨.plain, 5, 6⟩, ⟨.plain, 6, 9⟩]
        states := [.normal, .normal, .normal]
        lineDelta := 1 }
    edit.Fits old ∧ old.IsStorable ∧
      plain.rescan new (LineStates.ofScan (plain.scan .normal old)) edit.inserted = some result ∧
      Token.restrict (plain.tokenize new) result.span = [⟨.plain, 0, 9⟩] ∧
      ¬ edit.StaysOnLine old := by
  intro plain old edit new result
  have fits : edit.Fits old := by decide
  have storable : old.IsStorable := by decide
  have found : plain.rescan new (LineStates.ofScan (plain.scan .normal old)) edit.inserted =
      some result := by
    decide +kernel
  obtain ⟨other, sameFound, -, -, -, whole, agrees⟩ := rescan_plain_by_lines fits storable
  rcases Option.some.inj (found.symm.trans sameFound) with rfl
  refine ⟨fits, storable, found, whole, fun staysOnLine => ?_⟩
  have same : result.tokens = Token.plainIn result.span :=
    (agrees.mpr staysOnLine).trans whole
  exact absurd (congrArg List.length same) (by decide)

/-- A line feed put into a plain text parts its token in the rescan, not in a scan of the text. -/
theorem rescan_plain_of_inserted_break :
    let plain := ofLanguage? none
    let old : Text := ['a', 'b']
    let edit : Edit := { span := ⟨1, 1⟩, text := ['\n'] }
    let new := edit.applyTo old
    let result : Rescan :=
      { lines := ⟨0, 2⟩
        span := ⟨0, 3⟩
        tokens := [⟨.plain, 0, 2⟩, ⟨.plain, 2, 3⟩]
        states := [.normal, .normal]
        lineDelta := 1 }
    edit.Fits old ∧
      plain.rescan new (LineStates.ofScan (plain.scan .normal old)) edit.inserted = some result ∧
      Token.restrict (plain.tokenize new) result.span = [⟨.plain, 0, 3⟩] ∧
      result.tokens ≠ Token.restrict (plain.tokenize new) result.span := by
  decide +kernel

end Highlighter
end Lexis
