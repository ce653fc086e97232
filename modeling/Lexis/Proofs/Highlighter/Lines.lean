import Lexis.Proofs.Grammar.LineLocal
import Lexis.Proofs.Markdown.LineLocal
import Lexis.Proofs.Scanner.Covers

namespace Lexis
namespace Method

/-!
Texts scanned line by line.

Markdown, and every grammar whose operators do not include the line feed, can
be scanned in pieces that end with lines (`scan_in_pieces`).  Hence the states
of a scan are those at the ends of its lines, each scanned from the state that
the line before it was left in (`endStates_scan`).
-/

/-- Line feeds are line ends to the method, whatever stands around them. -/
def ReadsLines : Method -> Prop
  | plain => False
  | byGrammar grammar => '\n' ∉ grammar.operators
  | markdown => True

instance (method : Method) : Decidable method.ReadsLines :=
  match method with
  | plain => inferInstanceAs (Decidable False)
  | byGrammar grammar => inferInstanceAs (Decidable ('\n' ∉ grammar.operators))
  | markdown => inferInstanceAs (Decidable True)

variable {method : Method}

theorem ReadsLines.isLineLocal (readsLines : method.ReadsLines) :
    exists (scanner : Scanner Bool) (fresh inside : Bool),
      scanner.IsLineLocal fresh inside method.scan := by
  cases method with
  | plain => exact readsLines.elim
  | byGrammar grammar =>
      exact ⟨grammar.scanner, false, false, Grammar.isLineLocal_scanner readsLines⟩
  | markdown => exact ⟨Markdown.scanner, true, false, Markdown.isLineLocal_scanner⟩

/-! ## Pieces -/

theorem ReadsLines.scan_append (readsLines : method.ReadsLines) {state : State}
    (noFeed : state.quote? ≠ some '\n') {front : Text} (more : Text) (whole : front.IsWholeLines) :
    method.scan state (front ++ more) =
      (method.scan state front).append (method.scan (method.scan state front).endState more) := by
  rcases readsLines.isLineLocal with ⟨scanner, fresh, inside, law⟩
  exact law.scan_append noFeed more whole

theorem ReadsLines.tokens_append (readsLines : method.ReadsLines) {state : State}
    (noFeed : state.quote? ≠ some '\n') {front : Text} (more : Text) (whole : front.IsWholeLines)
    (base : Nat) :
    (method.scan state (front ++ more)).tokens base =
      Token.join (!(method.scan state front).endState.isNormal)
        ((method.scan state front).tokens base)
        ((method.scan (method.scan state front).endState more).tokens (base + front.size)) := by
  have same := (method.covers_scan state front).text_eq
  rw [readsLines.scan_append noFeed more whole, Scan.tokens_append, same]

/--
A text may be cut behind any of its lines, scanned in two pieces, and its tokens
joined.  The second piece is scanned in the state that the first was left in;
its first token is merged with the last one before it if that state is not
normal and both are of one category and touch.
-/
theorem scan_in_pieces (method : Method) (readsLines : method.ReadsLines) (state : State)
    (noFeed : state.quote? ≠ some '\n') (front more : Text) (whole : front.IsWholeLines)
    (base : Nat) :
    let both := method.scan state (front ++ more)
    let first := method.scan state front
    let second := method.scan first.endState more
    both.endState = second.endState ∧
      both.lineStates = first.lineStates ++ second.lineStates ∧
      both.tokens base = Token.join (!first.endState.isNormal) (first.tokens base)
        (second.tokens (base + front.size)) := by
  intro both first second
  have same : both = first.append second := readsLines.scan_append noFeed more whole
  refine ⟨?_, ?_, readsLines.tokens_append noFeed more whole base⟩
  · rw [same, Scan.endState_append]
  · rw [same, Scan.lineStates_append]

/-- A fenced block that is cut behind its first line is still one token. -/
theorem scan_in_pieces_of_fence :
    Method.markdown.ReadsLines ∧ State.normal.quote? ≠ some '\n' ∧
      Text.IsWholeLines ['`', '`', '`', '\n'] ∧
      (Method.markdown.scan .normal
        (['`', '`', '`', '\n'] ++ ['x', '\n', '`', '`', '`', 'y'])).tokens 7 =
          [⟨.string, 7, 16⟩, ⟨.plain, 16, 17⟩] := by
  rcases scan_in_pieces .markdown trivial .normal (by decide)
    ['`', '`', '`', '\n'] ['x', '\n', '`', '`', '`', 'y'] (by decide) 7 with ⟨-, -, joined⟩
  exact ⟨trivial, by decide, by decide, joined.trans (by decide +kernel)⟩

theorem ReadsLines.quote_endState (readsLines : method.ReadsLines) {state : State}
    (noFeed : state.quote? ≠ some '\n') (text : Text) :
    (method.scan state text).endState.quote? ≠ some '\n' := by
  rcases readsLines.isLineLocal with ⟨scanner, fresh, inside, law⟩
  exact law.quote_endState noFeed text

theorem ReadsLines.length_lineStates (readsLines : method.ReadsLines) {state : State}
    (noFeed : state.quote? ≠ some '\n') (text : Text) :
    (method.scan state text).lineStates.length = text.lineFeeds := by
  rcases readsLines.isLineLocal with ⟨scanner, fresh, inside, law⟩
  exact law.lineFeeds_scan noFeed text

theorem ReadsLines.getLast?_lineStates (readsLines : method.ReadsLines) {state : State}
    (noFeed : state.quote? ≠ some '\n') {text : Text} (whole : text.IsWholeLines)
    (nonempty : text ≠ []) :
    (method.scan state text).lineStates.getLast? = some (method.scan state text).endState := by
  rcases readsLines.isLineLocal with ⟨scanner, fresh, inside, law⟩
  exact law.getLast?_lineStates noFeed whole nonempty

/-! ## The ends of lines -/

/-- The state that some lines, scanned one after the other, leave the text behind them in. -/
def after (method : Method) : State -> List Text -> State
  | state, [] => state
  | state, line :: lines => after method (method.scan state line).endState lines

/-- The state at the end of each of some lines that are scanned one after the other. -/
def lineEnds (method : Method) : State -> List Text -> List State
  | _, [] => []
  | state, line :: lines =>
      (method.scan state line).endState ::
        lineEnds method (method.scan state line).endState lines

theorem after_append (state : State) (front lines : List Text) :
    method.after state (front ++ lines) = method.after (method.after state front) lines := by
  induction front generalizing state with
  | nil => rfl
  | cons line front ih => exact ih _

@[simp] theorem length_lineEnds (state : State) (lines : List Text) :
    (method.lineEnds state lines).length = lines.length := by
  induction lines generalizing state with
  | nil => rfl
  | cons line lines ih => simp only [lineEnds, List.length_cons, ih]

theorem take_lineEnds (state : State) (lines : List Text) (number : Nat) :
    (method.lineEnds state lines).take number = method.lineEnds state (lines.take number) := by
  induction lines generalizing state number with
  | nil => simp [lineEnds]
  | cons line lines ih =>
      cases number with
      | zero => rfl
      | succ number => simp only [lineEnds, List.take_succ_cons, ih]

/-- From any line on, the ends are those of the lines left, entered where the others end. -/
theorem drop_lineEnds (state : State) (lines : List Text) (number : Nat) :
    (method.lineEnds state lines).drop number =
      method.lineEnds (method.after state (lines.take number)) (lines.drop number) := by
  induction lines generalizing state number with
  | nil => simp [lineEnds]
  | cons line lines ih =>
      cases number with
      | zero => rfl
      | succ number => exact ih _ number

theorem getLast?_lineEnds (state : State) {lines : List Text} (present : lines ≠ []) :
    (method.lineEnds state lines).getLast? = some (method.after state lines) := by
  induction lines generalizing state with
  | nil => exact absurd rfl present
  | cons line lines ih =>
      simp only [lineEnds, after, List.getLast?_cons]
      cases lines with
      | nil => rfl
      | cons second lines => rw [ih _ (by simp), Option.getD_some]

theorem getElem?_lineEnds (state : State) (lines : List Text) {number : Nat}
    (inside : number < lines.length) :
    (method.lineEnds state lines)[number]? =
      some (method.after state (lines.take (number + 1))) := by
  induction lines generalizing state number with
  | nil => exact absurd inside (by simp)
  | cons line lines ih =>
      cases number with
      | zero => rfl
      | succ number => exact ih _ (Nat.lt_of_succ_lt_succ inside)

theorem ReadsLines.quote_after (readsLines : method.ReadsLines) {state : State}
    (noFeed : state.quote? ≠ some '\n') (lines : List Text) :
    (method.after state lines).quote? ≠ some '\n' := by
  induction lines generalizing state with
  | nil => exact noFeed
  | cons line lines ih => exact ih (readsLines.quote_endState noFeed line)

/-- A line reports one state, which is the one that it ends in. -/
theorem ReadsLines.lineStates_line (readsLines : method.ReadsLines) {state : State}
    (noFeed : state.quote? ≠ some '\n') {line : Text} (inLine : '\n' ∉ line) :
    (method.scan state (line ++ ['\n'])).lineStates =
      [(method.scan state (line ++ ['\n'])).endState] := by
  have whole : Text.IsWholeLines (line ++ ['\n']) := Or.inr (by simp)
  have length := readsLines.length_lineStates noFeed (line ++ ['\n'])
  have last := readsLines.getLast?_lineStates noFeed whole (by simp)
  rw [Text.lineFeeds_append, Text.lineFeeds, List.count_eq_zero_of_not_mem inLine] at length
  rcases List.length_eq_one_iff.mp length with ⟨only, same⟩
  rw [same, List.getLast?_singleton] at last
  rw [same, Option.some.inj last]

/-- The states of a scan are those that its lines end in, scanned one after the other. -/
theorem ReadsLines.endStates_scan (readsLines : method.ReadsLines) {state : State}
    (noFeed : state.quote? ≠ some '\n') (text : Text) :
    (method.scan state text).endStates = method.lineEnds state text.lines := by
  induction text using Text.byLines generalizing state with
  | last line inLine =>
      have length := readsLines.length_lineStates noFeed line
      rw [Text.lineFeeds, List.count_eq_zero_of_not_mem inLine, List.length_eq_zero_iff] at length
      rw [Scan.endStates, length, Text.lines_of_noFeed inLine]
      rfl
  | line line more inLine ih =>
      have whole : Text.IsWholeLines (line ++ ['\n']) := Or.inr (by simp)
      have parts : line ++ '\n' :: more = line ++ ['\n'] ++ more := by simp
      have rest := ih (readsLines.quote_endState noFeed (line ++ ['\n']))
      rw [Text.lines_line more inLine, parts, readsLines.scan_append noFeed more whole,
        Scan.endStates, Scan.lineStates_append, Scan.endState_append, lineEnds,
        readsLines.lineStates_line noFeed inLine, List.append_assoc, ← rest, Scan.endStates]
      rfl

theorem ReadsLines.endStates_scan_normal (readsLines : method.ReadsLines) (text : Text) :
    (method.scan .normal text).endStates = method.lineEnds .normal text.lines :=
  readsLines.endStates_scan (by decide) text

theorem ReadsLines.scan_normal_nil (readsLines : method.ReadsLines) :
    (method.scan .normal []).endState = .normal := by
  rcases readsLines.isLineLocal with ⟨scanner, fresh, inside, law⟩
  rw [law.scan_normal, Scanner.run_nil]

/-- Whole lines at once leave the same state as one after the other, be it none from `normal`. -/
theorem ReadsLines.endState_flatten (readsLines : method.ReadsLines) {state : State}
    (noFeed : state.quote? ≠ some '\n') {lines : List Text}
    (whole : forall line, line ∈ lines -> line.IsWholeLines)
    (entry : lines = [] -> state = .normal) :
    (method.scan state lines.flatten).endState = method.after state lines := by
  induction lines generalizing state with
  | nil =>
      rw [entry rfl]
      exact readsLines.scan_normal_nil
  | cons line lines ih =>
      have firstWhole := whole line List.mem_cons_self
      by_cases single : lines = []
      · rw [single, List.flatten_cons, List.flatten_nil, List.append_nil]
        rfl
      · rw [List.flatten_cons, readsLines.scan_append noFeed _ firstWhole, Scan.endState_append]
        exact ih (readsLines.quote_endState noFeed line)
          (fun other member => whole other (List.mem_cons_of_mem _ member))
          fun none => absurd none single

/-- The lines before a line of a text leave the state that they leave one after the other. -/
theorem ReadsLines.endState_take_lines (readsLines : method.ReadsLines) {text : Text} {line : Nat}
    (inside : line < text.lines.length) :
    (method.scan .normal (text.lines.take line).flatten).endState =
      method.after .normal (text.lines.take line) :=
  readsLines.endState_flatten (by decide) (Text.isWholeLines_take_lines inside) fun _ => rfl

/-! ## The tokens of some of the lines -/

/--
The tokens of some lines in the middle of a text are those of the text
restricted to their place.
-/
theorem ReadsLines.restrict_tokens (readsLines : method.ReadsLines) {state : State}
    (noFeed : state.quote? ≠ some '\n') {front middle : Text} (rest : Text)
    (frontWhole : front.IsWholeLines)
    (middleWhole : middle.IsWholeLines ∧ middle ≠ [] ∨ rest = []) (base : Nat) :
    Token.restrict ((method.scan state (front ++ (middle ++ rest))).tokens base)
        { start := base + front.size, stop := base + front.size + middle.size } =
      (method.scan (method.scan state front).endState middle).tokens (base + front.size) := by
  have entry := readsLines.quote_endState noFeed front
  have frontTiles := (method.covers_scan state front).tiles base
  by_cases empty : middle = []
  · rcases middleWhole.resolve_left fun whole => whole.2 empty with rfl
    have nothing := (method.covers_scan (method.scan state front).endState []).tiles
      (base + front.size)
    rw [empty, Text.size_nil, Nat.add_zero, List.append_nil, List.append_nil,
      frontTiles.restrict_ahead, nothing.eq_nil]
  have beyond : base + front.size < base + front.size + middle.size := by
    have := Text.size_pos empty
    omega
  have middleTiles := (method.covers_scan (method.scan state front).endState middle).tiles
    (base + front.size)
  have behindTiles :=
    (method.covers_scan (method.scan state front).endState (middle ++ rest)).tiles
      (base + front.size)
  rw [readsLines.tokens_append noFeed (middle ++ rest) frontWhole,
    Token.restrict_join_right _ frontTiles behindTiles beyond]
  rcases middleWhole with ⟨whole, -⟩ | rfl
  · have restTiles :=
      (method.covers_scan (method.scan (method.scan state front).endState middle).endState
        rest).tiles (base + front.size + middle.size)
    rw [readsLines.tokens_append entry rest whole,
      Token.restrict_join_left _ middleTiles restTiles beyond, middleTiles.restrict_self]
  · rw [List.append_nil, middleTiles.restrict_self]

/-- The tokens of a text before one of its lines. -/
theorem ReadsLines.restrict_front (readsLines : method.ReadsLines) (text : Text) (line : Nat)
    (inside : line < text.lines.length) :
    Token.restrict ((method.scan .normal text).tokens 0)
        { start := 0, stop := text.lineStart line } =
      (method.scan .normal (text.lines.take line).flatten).tokens 0 := by
  have tiles := (method.covers_scan .normal text).tiles 0
  by_cases first : line = 0
  · subst first
    have nothing := (method.covers_scan .normal []).tiles 0
    rw [List.take_zero, List.flatten_nil, nothing.eq_nil]
    exact tiles.restrict_behind 0
  · have noFeed : State.normal.quote? ≠ some '\n' := by decide
    have range := text.isWholeLines_range 0 (Nat.pos_of_ne_zero first)
    rw [List.drop_zero, Nat.zero_add] at range
    have restricted := readsLines.restrict_tokens noFeed _ Text.isWholeLines_nil range 0
    rw [List.nil_append, ← List.flatten_append, List.take_append_drop, Text.flatten_lines,
      readsLines.scan_normal_nil, Text.size_nil, Nat.add_zero, Nat.zero_add] at restricted
    exact restricted

/-- The tokens of a text from one of its lines on. -/
theorem ReadsLines.restrict_back (readsLines : method.ReadsLines) (text : Text) (line : Nat) :
    Token.restrict ((method.scan .normal text).tokens 0)
        { start := text.lineStart line, stop := text.size } =
      (method.scan (method.after .normal (text.lines.take line))
        (text.lines.drop line).flatten).tokens (text.lineStart line) := by
  have size := text.lineStart_add_size line
  by_cases inside : line < text.lines.length
  · have noFeed : State.normal.quote? ≠ some '\n' := by decide
    have frontLines := Text.isWholeLines_take_lines inside
    have entry := readsLines.endState_take_lines inside
    have range : Text.IsWholeLines (text.lines.drop line).flatten ∧
        (text.lines.drop line).flatten ≠ [] ∨ ([] : Text) = [] := Or.inr rfl
    have restricted := readsLines.restrict_tokens noFeed []
      (Text.isWholeLines_flatten frontLines) range 0
    rw [List.append_nil, ← List.flatten_append, List.take_append_drop, Text.flatten_lines, entry,
      Nat.zero_add] at restricted
    rw [← size]
    exact restricted
  · rw [List.drop_of_length_le (Nat.le_of_not_lt inside), List.flatten_nil, Text.size_nil,
      Nat.add_zero] at size
    have tiles := (method.covers_scan .normal text).tiles 0
    have nothing := (method.covers_scan (method.after .normal (text.lines.take line)) []).tiles
      (text.lineStart line)
    rw [List.drop_of_length_le (Nat.le_of_not_lt inside), List.flatten_nil, nothing.eq_nil, size]
    rw [Nat.zero_add] at tiles
    exact tiles.restrict_ahead _

/-- The tokens of lines one after the other, joined where a construct goes over the seam. -/
theorem ReadsLines.join_range (readsLines : method.ReadsLines) (text : Text) {first : Nat}
    (count : Nat) (inside : first < text.lines.length) :
    Token.join (!(method.after .normal (text.lines.take first)).isNormal)
        ((method.scan .normal (text.lines.take first).flatten).tokens 0)
        ((method.scan (method.after .normal (text.lines.take first))
          ((text.lines.drop first).take count).flatten).tokens (text.lineStart first)) =
      (method.scan .normal (text.lines.take (first + count)).flatten).tokens 0 := by
  have noFeed : State.normal.quote? ≠ some '\n' := by decide
  have frontLines := Text.isWholeLines_take_lines inside
  have entry := readsLines.endState_take_lines inside
  have joined := readsLines.tokens_append noFeed ((text.lines.drop first).take count).flatten
    (Text.isWholeLines_flatten frontLines) 0
  rw [← List.flatten_append, ← List.take_add, entry, Nat.zero_add] at joined
  exact joined.symm

/-- The tokens before a line and from it on, joined where a construct goes over its start. -/
theorem ReadsLines.join_tokens (readsLines : method.ReadsLines) (text : Text) (line : Nat) :
    Token.join (!(method.after .normal (text.lines.take line)).isNormal)
        ((method.scan .normal (text.lines.take line).flatten).tokens 0)
        ((method.scan (method.after .normal (text.lines.take line))
          (text.lines.drop line).flatten).tokens (text.lineStart line)) =
      (method.scan .normal text).tokens 0 := by
  by_cases inside : line < text.lines.length
  · have joined := readsLines.join_range text (text.lines.length - line) inside
    rw [← List.length_drop, List.take_length, List.length_drop,
      Nat.add_sub_cancel' (Nat.le_of_lt inside), List.take_length, Text.flatten_lines] at joined
    exact joined
  · have nothing := (method.covers_scan (method.after .normal (text.lines.take line)) []).tiles
      (text.lineStart line)
    have short := Nat.le_of_not_lt inside
    rw [List.drop_of_length_le short, List.flatten_nil, nothing.eq_nil, Token.join_nil_right,
      List.take_of_length_le short, Text.flatten_lines]

end Method
end Lexis
