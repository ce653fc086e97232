import Lexis.Proofs.Body.OneLine
import Lexis.Proofs.Grammar.Constructs
import Lexis.Proofs.Scanner.Lexemes
import Lexis.Proofs.Scanner.States

namespace Lexis

/-!
Strings on one line that are carried over.

A line ends within a string that is not multiline only behind a backslash.  A
text, however, leaves such a string open wherever it runs out in it, also in the
middle of a line (`Grammar.one_line_strings_carry`).
-/

/-! ## Places of line states -/

/-- The line state of this number is reported at the line feed that ends the front. -/
def Scan.ReportsAt (scan : Scan) (number : Nat) (front : Text) : Prop :=
  exists (earlier : List Lexeme) (lexeme : Lexeme) (later : List Lexeme) (inside behind : Text),
    scan.lexemes = earlier ++ lexeme :: later ∧ lexeme.text = inside ++ '\n' :: behind ∧
      number = (earlier.flatMap (·.lineStates)).length + inside.lineFeeds ∧
      front = Lexeme.spell earlier ++ (inside ++ ['\n'])

theorem Scan.ReportsAt.isPrefix {scan : Scan} {text front : Text} {number : Nat}
    (reports : scan.ReportsAt number front) (covers : scan.Covers text) : front <+: text := by
  rcases reports with ⟨earlier, lexeme, later, inside, behind, parts, text_eq, -, rfl⟩
  refine ⟨behind ++ Lexeme.spell later, ?_⟩
  rw [← covers.text_eq, Scan.text, parts]
  simp [Lexeme.spell, text_eq]

theorem Text.exists_lineFeed {text : Text} {index : Nat} (inside : index < text.lineFeeds) :
    exists front behind, text = front ++ '\n' :: behind ∧ Text.lineFeeds front = index := by
  induction text generalizing index with
  | nil => exact absurd inside (Nat.not_lt_zero index)
  | cons head tail ih =>
      by_cases feed : head = '\n'
      · subst feed
        cases index with
        | zero => exact ⟨[], tail, rfl, rfl⟩
        | succ index =>
            rw [lineFeeds, List.count_cons_self] at inside
            rcases ih (Nat.lt_of_succ_lt_succ inside) with ⟨front, behind, rfl, rfl⟩
            exact ⟨'\n' :: front, behind, rfl, List.count_cons_self⟩
      · rw [lineFeeds, List.count_cons_of_ne feed] at inside
        rcases ih inside with ⟨front, behind, rfl, rfl⟩
        exact ⟨head :: front, behind, rfl, List.count_cons_of_ne feed⟩

/-- Every line state is one of a lexeme's, behind those of the earlier lexemes. -/
theorem Lexeme.exists_lineState {lexemes : List Lexeme} {number : Nat} {state : State}
    (reported : (lexemes.flatMap (·.lineStates))[number]? = some state) :
    exists earlier lexeme later index, lexemes = earlier ++ lexeme :: later ∧
      number = (earlier.flatMap (·.lineStates)).length + index ∧
      lexeme.lineStates[index]? = some state := by
  induction lexemes generalizing number with
  | nil => exact absurd reported (by simp)
  | cons first lexemes ih =>
      rw [List.flatMap_cons] at reported
      rcases Nat.lt_or_ge number first.lineStates.length with inFirst | behind
      · rw [List.getElem?_append_left inFirst] at reported
        exact ⟨[], first, lexemes, number, rfl, by simp, reported⟩
      · rw [List.getElem?_append_right behind] at reported
        rcases ih reported with ⟨earlier, lexeme, later, index, rfl, place, found⟩
        refine ⟨first :: earlier, lexeme, later, index, rfl, ?_, found⟩
        rw [List.flatMap_cons, List.length_append]
        omega

/-- If the lexeme's line ends are in a string on one line, each of them is escaped. -/
def Lexeme.EscapesFeeds (lexeme : Lexeme) : Prop :=
  forall quote, State.inString quote false ∈ lexeme.lineStates ->
    lexeme.lineStates.length = lexeme.text.lineFeeds ∧ lexeme.text.FeedsEscaped

theorem Scan.exists_reportsAt {scan : Scan}
    (escapes : forall lexeme, lexeme ∈ scan.lexemes -> lexeme.EscapesFeeds) {number : Nat}
    {quote : Char} (reported : scan.lineStates[number]? = some (.inString quote false)) :
    exists front, scan.ReportsAt number front ∧ ['\\', '\n'] <:+ front := by
  rcases Lexeme.exists_lineState reported with ⟨earlier, lexeme, later, index, parts, place, found⟩
  have member : lexeme ∈ scan.lexemes := parts ▸ List.mem_append_right _ List.mem_cons_self
  rcases escapes lexeme member quote (List.mem_of_getElem? found) with ⟨count, escaped⟩
  have inside : index < lexeme.text.lineFeeds := count ▸ (List.getElem?_eq_some_iff.mp found).1
  rcases Text.exists_lineFeed inside with ⟨front, behind, text_eq, rfl⟩
  refine ⟨_, ⟨earlier, lexeme, later, front, behind, parts, text_eq, place, rfl⟩, ?_⟩
  rcases escaped front behind text_eq with ⟨before, rfl⟩
  exact ⟨Lexeme.spell earlier ++ before, by simp⟩

/-- The rest of a string on one line escapes its line ends. -/
theorem Body.escapesFeeds {construct : State} (noFeed : construct.quote? ≠ some '\n')
    (category : Category) {body : Body}
    (ofString : forall quote, construct = .inString quote false ->
      exists text, body = Body.ofString quote false text) :
    (body.lexeme category construct).EscapesFeeds := by
  intro quote member
  obtain rfl := Body.eq_of_mem_lineStates member
  rcases ofString quote rfl with ⟨text, rfl⟩
  have notFeed : quote ≠ '\n' := fun same => noFeed (congrArg some same)
  refine ⟨?_, Body.feedsEscaped_ofString notFeed text⟩
  rw [Body.lexeme, Body.lineStates, List.length_replicate, Body.lineFeeds_ofString notFeed]

namespace Grammar

variable {grammar : Grammar} {inTag : Bool} {quote head : Char} {tail text : Text} {state : State}

/-! ## Steps -/

/-- A single one of these quotes begins a string that ends with the line. -/
structure QuotesOneLine (grammar : Grammar) (quote : Char) : Prop where
  isQuote : grammar.features.isQuote quote = true
  inLine : (quote == '`' && grammar.features.multilineStrings) = false

/-- The step that begins here takes a string that ends with the line. -/
structure TakesOneLine (grammar : Grammar) (inTag : Bool) (head : Char) (tail : Text)
    (quote : Char) : Prop extends grammar.QuotesOneLine quote where
  head_eq : head = quote
  next_eq : grammar.next inTag head tail =
    withBody .string (.inString quote false) inTag [] (Body.ofString quote false tail)

theorem QuotesOneLine.ne_feed (quotes : grammar.QuotesOneLine quote) : quote ≠ '\n' := by
  rcases isQuote_cases quotes.isQuote with rfl | rfl | rfl <;> decide

/-- Only strings that end with the line are reported as such. -/
theorem reports_takesOneLine (grammar : Grammar) (inTag : Bool) (head : Char) (tail : Text) :
    (grammar.next inTag head tail).Reports fun reported => forall quote,
      reported = .inString quote false -> grammar.TakesOneLine inTag head tail quote := by
  have announces := grammar.announces_opening inTag head tail
  cases kind : grammar.opening inTag head tail with
  | string quote tripled =>
      rw [kind] at announces
      rcases announces with ⟨rfl, isQuote, rfl⟩
      have takes : forall quote, State.inString head
          (grammar.features.opensTripled head (head :: tail) ||
            head == '`' && grammar.features.multilineStrings) = .inString quote false ->
          grammar.TakesOneLine inTag head tail quote := by
        intro quote same
        rcases State.inString.inj same with ⟨rfl, oneLine⟩
        rcases Bool.or_eq_false_iff.mp oneLine with ⟨single, inLine⟩
        have next_eq := next_of_quoted inTag isQuote single
        simp only [inLine] at next_eq
        exact ⟨⟨isQuote, inLine⟩, rfl, next_eq⟩
      rw [next, kind]
      exact Step.reports_ofBody (by simp) .string takes _ _ _
  | lineBreak =>
      rw [next, kind]
      exact Step.reports_lineBreak (by simp) false head tail
  | blockComment | markupComment =>
      rw [next, kind]
      exact Step.reports_ofBody (by simp) .comment
        (by simp [State.blockComment, State.markupComment]) _ _ _
  | _ =>
      rw [next, kind]
      refine Step.reports_of_closed (by simp) (fun state member => ?_) rfl
      exact absurd member (by simp [stepOf, within, wordStep])

theorem escapesFeeds_step (grammar : Grammar) (inTag : Bool) (head : Char) (tail : Text) :
    ((grammar.scanner.next inTag head tail).lexeme head).EscapesFeeds := by
  intro quote member
  have takes := (grammar.reports_takesOneLine inTag head tail).lineStates _ member quote rfl
  obtain rfl := takes.head_eq
  have notFeed := takes.ne_feed
  have step : grammar.scanner.next inTag head tail =
      withBody .string (.inString head false) inTag [] (Body.ofString head false tail) :=
    takes.next_eq
  rw [step]
  constructor
  · have count := Body.lineFeeds_ofString notFeed false tail
    simp only [Step.lexeme, withBody, Step.ofBody, Body.lineStates, List.length_replicate, count,
      Text.lineFeeds]
    exact (List.count_cons_of_ne notFeed).symm
  · exact (Body.feedsEscaped_ofString notFeed tail).cons notFeed

theorem escapesFeeds_scan (noFeed : state.quote? ≠ some '\n') :
    forall lexeme, lexeme ∈ (grammar.scan state text).lexemes -> lexeme.EscapesFeeds := by
  have steps := grammar.escapesFeeds_step
  cases state with
  | normal =>
      exact Scanner.forall_lexemes_run _ .normal false fun inTag head tail _ => steps inTag head tail
  | inString quote multiline =>
      refine Scanner.forall_lexemes_resume _ steps (Body.escapesFeeds noFeed .string ?_) false
      intro other same
      rcases State.inString.inj same with ⟨rfl, rfl⟩
      exact ⟨text, rfl⟩
  | inComment multiline markup =>
      exact Scanner.forall_lexemes_resume _ steps
        (Body.escapesFeeds (by simp [State.quote?]) .comment (by simp)) false

/-! ## The end of the text -/

/--
Behind a text is open what its last step leaves open, unless the construct that
the text begins in takes all of it.
-/
theorem exists_last_step_of_resume {category : Category} {construct : State} {body : Body}
    (whole : body.cut.whole = text) :
    let scan := grammar.scanner.resume category construct false body
    body.cut.rest = [] ∧ scan.endState = body.state construct ∧
        (forall token, token ∈ scan.tokens 0 -> token.start = 0) ∨
      body.cut.rest ≠ [] ∧ exists token inTag head tail,
        (scan.tokens 0).getLast? = some token ∧
        grammar.scanner.CutsOff text inTag head tail token ∧
        scan.endState = (grammar.next inTag head tail).state ∧
        (body.cut.taken = [] ∨ 0 < token.start) := by
  intro scan
  by_cases atEnd : body.cut.rest = []
  · left
    have onlyBody : scan = if body.cut.taken.isEmpty then
        { lexemes := [], endState := body.state construct } else
        { lexemes := [body.lexeme category construct], endState := body.state construct } := by
      simp only [scan, Scanner.resume, atEnd, Scanner.run_nil, Scan.cons]
    refine ⟨atEnd, by rw [onlyBody]; split <;> rfl, fun token member => ?_⟩
    rw [onlyBody] at member
    split at member
    · exact absurd member (by simp [Scan.tokens, Lexeme.place])
    · obtain rfl := List.mem_singleton.mp member
      rfl
  · right
    let behind := grammar.scanner.run (body.state construct) false body.cut.rest
    have last : exists token inTag head tail, (behind.tokens body.cut.taken.size).getLast? =
        some token ∧ grammar.scanner.CutsOff body.cut.whole inTag head tail token ∧
        behind.endState = (grammar.next inTag head tail).state :=
      Scanner.exists_last_step (body.state construct) false body.cut.taken atEnd
    rw [whole] at last
    rcases last with ⟨token, inTag, head, tail, isLast, cutsOff, endState⟩
    have tiles := (grammar.scanner.covers_run (body.state construct) false body.cut.rest).tiles
      body.cut.taken.size
    have lower : body.cut.taken.size ≤ token.start :=
      (tiles.bounds (List.mem_of_getLast? isLast)).1
    by_cases empty : body.cut.taken = []
    · have same : scan = behind := by simp [scan, behind, Scanner.resume, empty]
      rw [empty] at isLast
      exact ⟨atEnd, token, inTag, head, tail, same ▸ isLast, cutsOff, same ▸ endState, Or.inl empty⟩
    · have same : scan = behind.cons (body.lexeme category construct) := by
        simp [scan, behind, Scanner.resume, empty]
      refine ⟨atEnd, token, inTag, head, tail, ?_, cutsOff, same ▸ endState,
        Or.inr (Nat.lt_of_lt_of_le (Text.size_pos empty) lower)⟩
      rw [Scan.tokens] at isLast
      rw [same]
      simp only [Scan.tokens, Scan.cons, Lexeme.place, Body.lexeme, Nat.zero_add]
      rw [List.getLast?_cons, isLast, Option.getD_some]

/-- The text begins in a string on one line, and the string goes on to its end. -/
def CarriesOn (state : State) (quote : Char) (text : Text) : Prop :=
  state = .inString quote false ∧ Body.RunsOn quote text

/-- The last token begins a string on one line, in which the text runs out. -/
def RunsOut (grammar : Grammar) (state : State) (quote : Char) (text : Text) : Prop :=
  grammar.QuotesOneLine quote ∧ exists token inside,
    ((grammar.scan state text).tokens 0).getLast? = some token ∧
      (state = .normal ∨ 0 < token.start) ∧ text.after token.start = quote :: inside ∧
      Body.RunsOn quote inside

/-- What is open behind a text that begins in a construct and ends in it. -/
def EndsInside (grammar : Grammar) (state : State) (quote : Char) (text : Text) : Prop :=
  ((grammar.scan state text).endState = .inString quote false <-> CarriesOn state quote text) ∧
    forall token, token ∈ (grammar.scan state text).tokens 0 -> state ≠ .normal ∧ token.start = 0

/-- What is open behind a text that ends outside of the construct it begins in. -/
def EndsBehind (grammar : Grammar) (state : State) (quote : Char) (text : Text) : Prop :=
  ¬ CarriesOn state quote text ∧
    exists token inTag head tail, ((grammar.scan state text).tokens 0).getLast? = some token ∧
      grammar.scanner.CutsOff text inTag head tail token ∧
      (grammar.scan state text).endState = (grammar.next inTag head tail).state ∧
      (state = .normal ∨ 0 < token.start ∨ isLineBreak head = true)

theorem state_ofString_iff {multiline : Bool} {other : Char} :
    (Body.ofString other multiline text).state (.inString other multiline) =
        .inString quote false <-> CarriesOn (.inString other multiline) quote text := by
  rw [Body.state]
  constructor
  · intro isOpen
    split at isOpen
    · next goesOn =>
        rcases State.inString.inj isOpen with ⟨rfl, rfl⟩
        exact ⟨rfl, Body.isOpen_ofString_iff.mp goesOn⟩
    · exact State.noConfusion isOpen
  · rintro ⟨same, runsOn⟩
    rcases State.inString.inj same with ⟨rfl, rfl⟩
    rw [if_pos (Body.isOpen_ofString_iff.mpr runsOn)]

theorem endsInside_or_endsBehind (grammar : Grammar) (state : State) (quote : Char) (text : Text) :
    grammar.EndsInside state quote text ∨ grammar.EndsBehind state quote text := by
  cases state with
  | normal =>
      have outside : ¬ CarriesOn .normal quote text := fun carriesOn => State.noConfusion carriesOn.1
      by_cases empty : text = []
      · subst empty
        have nothing : grammar.scan .normal [] = { lexemes := [], endState := .normal } :=
          Scanner.run_nil _ _ _
        rw [EndsInside, nothing]
        exact Or.inl ⟨iff_of_false State.noConfusion outside, fun _ member => nomatch member⟩
      · have last : exists token inTag head tail,
            ((grammar.scan .normal text).tokens 0).getLast? = some token ∧
              grammar.scanner.CutsOff text inTag head tail token ∧
              (grammar.scan .normal text).endState = (grammar.next inTag head tail).state :=
          Scanner.exists_last_step .normal false [] empty
        rcases last with ⟨token, inTag, head, tail, isLast, cutsOff, endState⟩
        exact Or.inr ⟨outside, token, inTag, head, tail, isLast, cutsOff, endState, Or.inl rfl⟩
  | inString other multiline =>
      have whole := Body.whole_ofString other multiline text
      rcases exists_last_step_of_resume whole with
        ⟨-, endState, starts⟩ | ⟨more, token, inTag, head, tail, isLast, cutsOff, endState, place⟩
      · refine Or.inl ⟨?_, fun token member => ⟨by simp, starts token member⟩⟩
        rw [← state_ofString_iff, ← endState]
        rfl
      · refine Or.inr ⟨fun carriesOn => ?_, token, inTag, head, tail, isLast, cutsOff, endState,
          Or.inr ?_⟩
        · rcases State.inString.inj carriesOn.1 with ⟨rfl, rfl⟩
          exact more (Body.rest_of_open_ofString (Body.isOpen_ofString_iff.mpr carriesOn.2))
        rcases place with empty | positive
        · rcases Body.rest_of_taken_ofString empty with rfl | ⟨mark, rest, breaks, ends⟩
          · exact absurd rfl more
          · rcases Nat.eq_zero_or_pos token.start with starts | positive
            · have first := cutsOff.rest_eq
              rw [starts, Text.after_zero, ← whole, ends] at first
              obtain rfl : mark = head := (List.cons.inj first).1
              exact Or.inr breaks
            · exact Or.inl positive
        · exact Or.inl positive
  | inComment multiline markup =>
      have outside : ¬ CarriesOn (.inComment multiline markup) quote text :=
        fun carriesOn => State.noConfusion carriesOn.1
      have whole := Body.whole_ofComment (if markup then markupCloser else blockCloser) text
      rcases exists_last_step_of_resume whole with
        ⟨-, endState, starts⟩ | ⟨more, token, inTag, head, tail, isLast, cutsOff, endState, place⟩
      · have noString : forall body : Body,
            body.state (.inComment true markup) ≠ .inString quote false := by
          intro body
          rw [Body.state]
          split <;> exact State.noConfusion
        exact Or.inl ⟨iff_of_false (fun isOpen => noString _ (endState.symm.trans isOpen)) outside,
          fun token member => ⟨by simp, starts token member⟩⟩
      · refine Or.inr ⟨outside, token, inTag, head, tail, isLast, cutsOff, endState, Or.inr ?_⟩
        rcases place with empty | positive
        · have none := Body.rest_of_taken_ofComment (by cases markup <;> decide) empty
          subst none
          exact absurd rfl more
        · exact Or.inl positive

/-- A step leaves a string on one line open just if the text runs out in the string it takes. -/
theorem state_eq_iff : (grammar.next inTag head tail).state = .inString quote false <->
    grammar.QuotesOneLine quote ∧ head = quote ∧ Body.RunsOn quote tail := by
  constructor
  · intro isOpen
    have takes := (grammar.reports_takesOneLine inTag head tail).state quote isOpen
    rw [takes.next_eq] at isOpen
    exact ⟨takes.toQuotesOneLine, takes.head_eq, (state_ofString_iff.mp isOpen).2⟩
  · rintro ⟨⟨isQuote, inLine⟩, rfl, runsOn⟩
    have single : grammar.features.opensTripled head (head :: tail) = false := by
      refine Bool.eq_false_iff.mpr fun tripled => ?_
      rcases quotes_of_opensTripled isQuote tripled with ⟨rest, rfl⟩
      cases runsOn with
      | escape => exact absurd (isQuote_cases isQuote) (by decide)
      | plain _ notQuote => exact notQuote rfl
    rw [next_of_quoted inTag isQuote single, inLine]
    exact state_ofString_iff.mpr ⟨rfl, runsOn⟩

/--
A text leaves a string on one line open exactly if it runs out in the string, be
it the one that the text begins in or one that its last token begins.
-/
theorem endState_eq_iff (grammar : Grammar) (state : State) (quote : Char) (text : Text) :
    (grammar.scan state text).endState = .inString quote false <->
      CarriesOn state quote text ∨ grammar.RunsOut state quote text := by
  rcases grammar.endsInside_or_endsBehind state quote text with
    ⟨same, starts⟩ | ⟨outside, token, inTag, head, tail, isLast, cutsOff, endState, place⟩
  · refine same.trans (or_iff_left ?_).symm
    rintro ⟨-, token, inside, isLast, place, -⟩
    rcases starts token (List.mem_of_getLast? isLast) with ⟨notNormal, atStart⟩
    rcases place with normal | behind
    · exact notNormal normal
    · exact Nat.ne_of_gt behind atStart
  · rw [endState, or_iff_right outside, state_eq_iff]
    constructor
    · rintro ⟨quotes, rfl, runsOn⟩
      refine ⟨quotes, token, tail, isLast, ?_, cutsOff.rest_eq, runsOn⟩
      rcases place with normal | behind | breaks
      · exact Or.inl normal
      · exact Or.inr behind
      · have kind := opening_of_isLineBreak grammar inTag tail breaks
        rw [opening_of_quote quotes.isQuote] at kind
        exact Opening.noConfusion kind
    · rintro ⟨quotes, other, inside, isLastToo, -, rest_eq, runsOn⟩
      obtain rfl : token = other := Option.some.inj (isLast.symm.trans isLastToo)
      rcases List.cons.inj (cutsOff.rest_eq.symm.trans rest_eq) with ⟨rfl, rfl⟩
      exact ⟨quotes, rfl, runsOn⟩

/-- A text that ends with a line feed leaves a string on one line open only if it is escaped. -/
theorem escaped_of_endState (isOpen : (grammar.scan state text).endState = .inString quote false)
    (atFeed : text.getLast? = some '\n') : ['\\', '\n'] <:+ text := by
  rcases (grammar.endState_eq_iff state quote text).mp isOpen with
    carriesOn | ⟨quotes, token, inside, -, -, rest_eq, runsOn⟩
  · exact carriesOn.2.escaped atFeed
  · have parts : Text.before token.start text ++ quote :: inside = text := by
      rw [← rest_eq, Text.before_append_after]
    rw [← parts, List.getLast?_append] at atFeed
    rw [← parts]
    cases inside with
    | nil => exact absurd (Option.some.inj atFeed) quotes.ne_feed
    | cons first inside =>
        have atEnd : (first :: inside).getLast? = some '\n' := by
          rwa [List.getLast?_cons_cons, List.getLast?_cons, Option.some_or,
            ← List.getLast?_cons] at atFeed
        exact (runsOn.escaped atEnd).trans
          ((List.suffix_cons quote (first :: inside)).trans (List.suffix_append _ _))

/--
If a line ends within a string that is not multiline, its line feed stands behind a
backslash.  A text leaves such a string open exactly if it runs out in the string,
and so not only behind an escaped line feed: unless the text ends with a line feed,
it is left open within a line.
-/
theorem one_line_strings_carry (grammar : Grammar) (noFeed : state.quote? ≠ some '\n')
    (text : Text) :
    let scan := grammar.scan state text
    (forall number quote, scan.lineStates[number]? = some (.inString quote false) ->
        exists front, front <+: text ∧ scan.ReportsAt number front ∧ ['\\', '\n'] <:+ front) ∧
      (forall quote, scan.endState = .inString quote false <->
        CarriesOn state quote text ∨ grammar.RunsOut state quote text) ∧
      (forall quote, scan.endState = .inString quote false ->
        (['\\', '\n'] <:+ text <-> text.getLast? = some '\n')) := by
  intro scan
  refine ⟨fun number quote reported => ?_, fun quote => grammar.endState_eq_iff state quote text,
    fun quote isOpen => ⟨?_, escaped_of_endState isOpen⟩⟩
  · rcases Scan.exists_reportsAt (escapesFeeds_scan noFeed) reported with ⟨front, reports, escaped⟩
    exact ⟨front, reports.isPrefix (grammar.covers_scan state text), reports, escaped⟩
  · rintro ⟨front, rfl⟩
    rw [List.getLast?_append]
    rfl

/--
The line feed within the string that the text begins in is escaped.  The string
that the text ends in is left open within a line.
-/
theorem one_line_strings_carry_of_two_strings :
    let text : Text := ['a', '\\', '\n', 'b', '"', '"', 'c']
    let state : State := .inString '"' false
    let scan := Grammar.c.scan state text
    state.quote? ≠ some '\n' ∧ scan.lineStates = [.inString '"' false] ∧
      (exists front, front <+: text ∧ scan.ReportsAt 0 front ∧ ['\\', '\n'] <:+ front) ∧
      scan.endState = .inString '"' false ∧ Grammar.c.RunsOut state '"' text ∧
      ¬ ['\\', '\n'] <:+ text := by
  intro text state scan
  have noFeed : state.quote? ≠ some '\n' := by decide
  have lineStates : scan.lineStates = [.inString '"' false] := by decide +kernel
  have endState : scan.endState = .inString '"' false := by decide +kernel
  have closed : ¬ CarriesOn state '"' text := fun carriesOn =>
    absurd (Body.isOpen_ofString_iff.mpr carriesOn.2) (by decide +kernel)
  rcases one_line_strings_carry Grammar.c noFeed text with ⟨reported, carried, escaped⟩
  refine ⟨noFeed, lineStates, reported 0 '"' (by rw [lineStates]; rfl), endState, ?_, ?_⟩
  · exact ((carried '"').mp endState).resolve_left closed
  · rw [escaped '"' endState]
    decide

/-- The text ends within a line, and yet a string that ends with the line is left open. -/
theorem carried_within_line :
    let text : Text := ['"', 'a', 'b', 'c']
    State.normal.quote? ≠ some '\n' ∧
      (Grammar.c.scan .normal text).endState = .inString '"' false ∧ ¬ ['\\', '\n'] <:+ text := by
  decide +kernel

end Grammar
end Lexis
