import Lexis.Proofs.Grammar.Kinds
import Lexis.Proofs.Scanner.Returns
import Lexis.Proofs.Scanner.States

namespace Lexis

/-!
Grammars and the two characters of a line break.

A text whose lines end with a carriage return and a line feed is scanned like
the same text with line feeds alone, with one exception.  A string of one line
goes on behind an escaped line feed; with a carriage return before the line
feed, the backslash takes the carriage return only, and the line feed ends the
string.  `Grammar.scan_withReturns_iff` says that nothing else differs.
-/

namespace Numeral

/-- Where a line ends, a number ends. -/
theorem decimal_of_isLineBreak (hasFraction hasExponent : Bool) {head : Char} (tail : Text)
    (breaks : isLineBreak head = true) :
    decimal hasFraction hasExponent (head :: tail) = Cut.stop (head :: tail) := by
  have others : isDigit head = false ∧ (head == '_') = false ∧ (head == '.') = false ∧
      isExponentMark head = false := by
    simp only [isLineBreak, Bool.or_eq_true, beq_iff_eq] at breaks
    rcases breaks with rfl | rfl <;> decide
  rcases others with ⟨notDigit, notLow, notPoint, notMark⟩
  rw [decimal.eq_def]
  simp only [notDigit, notLow, notPoint, notMark, Bool.or_self, Bool.false_and,
    Bool.false_eq_true, if_false]

theorem ignoresReturns_decimal (hasFraction hasExponent : Bool) :
    Cut.IgnoresReturns (decimal hasFraction hasExponent) := by
  intro text
  fun_induction decimal hasFraction hasExponent text with
  | case1 => rfl
  | case2 hasFraction hasExponent head tail digit ih =>
      have other := ne_feed_of_digit digit
      rw [Text.withReturns_cons _ other, decimal.eq_def]
      simp only [if_pos digit, ih, Cut.withReturns_push other]
  | case3 hasFraction hasExponent head tail notDigit point ih =>
      have isPoint := point
      simp only [Bool.and_assoc] at isPoint
      have other := ne_feed_of_point isPoint
      have sameNext := Text.any_head?_withReturns (show isDigit '\r' = isDigit '\n' from rfl) tail
      rw [Text.withReturns_cons _ other, decimal.eq_def]
      simp only [if_neg notDigit, sameNext, if_pos point, ih, Cut.withReturns_push other]
  | case4 hasFraction hasExponent head notDigit mark notPoint =>
      have other := ne_feed_of_exponentMark mark
      rw [Text.withReturns_cons _ other, Cut.withReturns_push other, decimal.eq_def]
      simp only [Text.withReturns, if_neg notDigit, if_neg notPoint, if_pos mark,
        Cut.withReturns_stop]
  | case5 hasFraction hasExponent head notDigit mark sign rest isSigned notPoint ih =>
      have other := ne_feed_of_exponentMark mark
      have signOther := ne_feed_of_sign isSigned
      rw [Text.withReturns_cons _ other, Text.withReturns_cons _ signOther, decimal.eq_def]
      simp only [List.head?_cons] at notPoint ⊢
      simp only [if_neg notDigit, if_neg notPoint, if_pos mark, if_pos isSigned, ih,
        Cut.withReturns_push other, Cut.withReturns_push signOther]
  | case6 hasFraction hasExponent head notDigit mark sign rest notSigned notPoint ih =>
      have other := ne_feed_of_exponentMark mark
      rw [Text.withReturns_cons _ other, Cut.withReturns_push other, ← ih]
      by_cases feed : sign = '\n'
      · subst feed
        have noDigit : ¬ (head == '.' && !hasFraction && !hasExponent &&
            (some '\r').any isDigit) = true := notPoint
        have noSign : ¬ isSign '\r' = true := by decide
        rw [Text.withReturns_feed, decimal.eq_def]
        simp only [List.head?_cons, if_neg notDigit, if_neg noDigit, if_pos mark, if_neg noSign]
      · rw [Text.withReturns_cons _ feed, decimal.eq_def]
        simp only [List.head?_cons] at notPoint ⊢
        simp only [if_neg notDigit, if_neg notPoint, if_pos mark, if_neg notSigned]
  | case7 hasFraction hasExponent head tail notDigit notPoint notMark =>
      by_cases feed : head = '\n'
      · subst feed
        rw [Text.withReturns_feed, decimal_of_isLineBreak _ _ _ rfl]
        rfl
      · have sameNext := Text.any_head?_withReturns (show isDigit '\r' = isDigit '\n' from rfl) tail
        rw [Cut.withReturns_stop, Text.withReturns_cons _ feed, decimal.eq_def]
        simp only [if_neg notDigit, sameNext, if_neg notPoint, if_neg notMark]

theorem ignoresReturns_cut (octal : Bool) (head : Char) : Cut.IgnoresReturns (cut octal head) := by
  intro text
  cases text with
  | nil => rfl
  | cons mark rest =>
      cases isBase : if head == '0' then base? octal mark else none with
      | some base =>
          have other := ne_feed_of_base isBase
          have ignores : Cut.IgnoresReturns
              (Cut.run fun digit => digit == '_' || isDigitIn base digit) := by
            apply Cut.ignoresReturns_run <;> simp [isDigitIn, digitValue?, isDigit]
          rw [Text.withReturns_cons _ other]
          simp only [cut, isBase, ignores rest, Cut.withReturns_push other]
      | none =>
          have ignores := ignoresReturns_decimal (head == '.') false (mark :: rest)
          by_cases feed : mark = '\n'
          · subst feed
            have noBase : (if head == '0' then base? octal '\r' else none) = none := isBase
            rw [Text.withReturns_feed] at ignores ⊢
            simp only [cut, isBase, noBase, ignores]
          · rw [Text.withReturns_cons _ feed] at ignores ⊢
            simp only [cut, isBase, ignores]

end Numeral

variable {head : Char} {tail : Text}

/-! ## What begins a lexeme -/

namespace Text

/-- An opener is seen from its first character on, if that ends no line. -/
theorem opensWith_cons_withReturns {opener : Text} (within : IsWithinLine opener)
    (other : head ≠ '\n') (tail : Text) :
    opensWith opener (head :: withReturns tail) = opensWith opener (head :: tail) := by
  rw [← withReturns_cons tail other, opensWith_withReturns within]

end Text

theorem isDocComment_withReturns (other : head ≠ '\n') (tail : Text) :
    isDocComment (head :: Text.withReturns tail) = isDocComment (head :: tail) := by
  simp (disch := first | exact other | decide) only [isDocComment, Text.opensWith_cons_withReturns]

theorem namesTag_withReturns (tail : Text) : namesTag (Text.withReturns tail) = namesTag tail := by
  cases tail with
  | nil => rfl
  | cons mark tail =>
      by_cases feed : mark = '\n'
      · subst feed
        have notLetter : isLetter '\n' = false ∧ isLetter '\r' = false := by decide +kernel
        have notMark : isTagMark '\n' = false ∧ isTagMark '\r' = false := by decide
        rw [Text.withReturns_feed]
        simp only [namesTag, notLetter.1, notLetter.2, notMark.1, notMark.2, Bool.false_and]
      · have same : isLetter '\r' = isLetter '\n' := by decide +kernel
        rw [Text.withReturns_cons _ feed]
        simp only [namesTag, Text.any_head?_withReturns same]

namespace Grammar

theorem atDirective_withReturns (grammar : Grammar) (other : head ≠ '\n') (tail : Text) :
    grammar.atDirective (head :: Text.withReturns tail) = grammar.atDirective (head :: tail) := by
  simp (disch := first | exact other | decide) only [atDirective, directives, List.any_cons,
    List.any_nil, Text.opensWith_cons_withReturns]

theorem tagCloser?_withReturns (grammar : Grammar) (inTag : Bool) (other : head ≠ '\n')
    (tail : Text) : grammar.tagCloser? inTag (head :: Text.withReturns tail) =
      grammar.tagCloser? inTag (head :: tail) := by
  simp (disch := first | exact other | decide) only [tagCloser?, tagClosers, List.find?_cons,
    List.find?_nil, Text.opensWith_cons_withReturns]

theorem opensTripled_withReturns (features : Features) (quote : Char) (other : head ≠ '\n')
    (tail : Text) : features.opensTripled quote (head :: Text.withReturns tail) =
      features.opensTripled quote (head :: tail) := by
  simp only [Features.opensTripled,
    Text.opensWith_cons_withReturns (Body.isWithinLine_tripled quote) other]

/-- The kind of a lexeme is the same before a line feed with a carriage return. -/
theorem opening_withReturns (grammar : Grammar) (inTag : Bool) (other : head ≠ '\n')
    (tail : Text) :
    grammar.opening inTag head (Text.withReturns tail) = grammar.opening inTag head tail := by
  have seen : forall opener : Text, opener.IsWithinLine ->
      Text.opensWith opener (head :: Text.withReturns tail) =
        Text.opensWith opener (head :: tail) :=
    fun opener within => Text.opensWith_cons_withReturns within other tail
  have slashes := seen ['/', '/'] (by decide)
  have starred := seen ['/', '*'] (by decide)
  have angled := seen ['<', '!', '-', '-'] (by decide)
  have digit := Text.any_head?_withReturns (show isDigit '\r' = isDigit '\n' from rfl) tail
  simp only [opening, slashes, starred, angled, isDocComment_withReturns other tail,
    namesTag_withReturns tail, digit, grammar.atDirective_withReturns other tail,
    grammar.tagCloser?_withReturns inTag other tail,
    opensTripled_withReturns grammar.features head other tail]

/-! ## The kinds of lexemes -/

theorem ignoresReturns_tagName : Cut.IgnoresReturns tagName := by
  have nameParts : isTagNamePart '\n' = false ∧ isTagNamePart '\r' = false := by decide +kernel
  have ignores := Cut.ignoresReturns_run nameParts.1 nameParts.2
  intro text
  cases text with
  | nil => rfl
  | cons head tail =>
      by_cases feed : head = '\n'
      · subst feed
        have notMark : ¬ isTagMark '\n' = true ∧ ¬ isTagMark '\r' = true := by decide
        have run := ignores ('\n' :: tail)
        rw [Text.withReturns_feed] at run ⊢
        rw [tagName, tagName, if_neg notMark.1, if_neg notMark.2, run]
      · rw [Text.withReturns_cons _ feed, tagName, tagName]
        split
        · rw [ignores, Cut.withReturns_push feed]
        · rw [← ignores, Text.withReturns_cons _ feed]

theorem callFollows_withReturns (text : Text) :
    callFollows text.withReturns = callFollows text := by
  have ignores : Cut.IgnoresReturns (Cut.run (· == ' ')) :=
    Cut.ignoresReturns_run (by decide) (by decide)
  have rest : text.withReturns.dropWhile (· == ' ') =
      Text.withReturns (text.dropWhile (· == ' ')) := congrArg Cut.rest (ignores text)
  rw [callFollows, callFollows, rest]
  cases text.dropWhile (· == ' ') with
  | nil => rfl
  | cons next more =>
      by_cases feed : next = '\n'
      · rw [feed, Text.withReturns_feed]
        rfl
      · rw [Text.withReturns_cons _ feed]
        rfl

theorem stepOf_withReturns_of_rule {grammar : Grammar} {inTag mode : Bool} {kind : Opening}
    (category : Category) {rule : Text -> Cut} (ignores : Cut.IgnoresReturns rule)
    (stepOf : forall text, grammar.stepOf inTag head text kind = within category mode (rule text)) :
    grammar.stepOf inTag head (Text.withReturns tail) kind =
      (grammar.stepOf inTag head tail kind).withReturns := by
  rw [stepOf, stepOf, ignores]
  rfl

theorem wordStep_withReturns (grammar : Grammar) (inTag : Bool) (head : Char) (tail : Text) :
    grammar.wordStep inTag head (Text.withReturns tail) =
      (grammar.wordStep inTag head tail).withReturns := by
  have parts : isWordPart '\n' = false ∧ isWordPart '\r' = false := by decide +kernel
  have ignores := Cut.ignoresReturns_run parts.1 parts.2 tail
  have word : (Cut.run isWordPart tail).withReturns.taken = (Cut.run isWordPart tail).taken :=
    Text.withReturns_of_noFeed ((Cut.isLineRule_run parts.1).noFeed tail)
  have call : callFollows (Cut.run isWordPart tail).withReturns.rest =
      callFollows (Cut.run isWordPart tail).rest := callFollows_withReturns _
  simp only [wordStep, within, ignores, word, wordCategory, call]
  rfl

theorem withBody_withReturns (category : Category) (construct : State) (inTag : Bool)
    {opener : Text} (noFeed : '\n' ∉ opener) (body : Body) :
    withBody category construct inTag opener body.withReturns =
      (withBody category construct inTag opener body).withReturns :=
  Step.ofBody_withReturns category construct _ noFeed body

theorem commentStep_withReturns (construct : State) {closer : Text} (within : closer.IsWithinLine)
    (inTag : Bool) {opener : Text} (noFeed : '\n' ∉ opener) (front : Text) :
    commentStep construct closer inTag opener.length (Text.withReturns (opener ++ front)) =
      (commentStep construct closer inTag opener.length (opener ++ front)).withReturns := by
  rw [Text.withReturns_behind noFeed]
  simp only [commentStep, List.take_left, List.drop_left]
  rw [Body.ofComment_withReturns within, withBody_withReturns _ _ _ noFeed]

/-- A string is the same, unless it reports that a string of one line goes over a line's end. -/
theorem stringStep_withReturns (grammar : Grammar) (inTag : Bool) {quote : Char} {tripled : Bool}
    (opener front : Text) (inLine : isLineBreak quote = false) (noFeed : '\n' ∉ opener)
    (length : opener.length = if tripled then 2 else 0)
    (spans : .inString quote false ∉
      (grammar.stringStep inTag quote tripled (opener ++ front)).lineStates) :
    grammar.stringStep inTag quote tripled (Text.withReturns (opener ++ front)) =
      (grammar.stringStep inTag quote tripled (opener ++ front)).withReturns := by
  rw [Text.withReturns_behind noFeed]
  simp only [stringStep, ← length, List.take_left, List.drop_left] at spans ⊢
  generalize (tripled || quote == '`' && grammar.features.multilineStrings) = multiline at spans ⊢
  have goesOn : multiline = true ∨ (Body.ofString quote multiline front).lineFeeds = 0 := by
    cases multiline with
    | true => exact Or.inl rfl
    | false =>
        apply Or.inr
        apply Nat.eq_zero_of_not_pos
        intro positive
        exact spans (List.mem_replicate.mpr ⟨Nat.ne_of_gt positive, rfl⟩)
  rw [Body.ofString_withReturns inLine goesOn, withBody_withReturns _ _ _ noFeed]

/-- A tag's closer has no line break in it. -/
theorem tagEnd_withReturns {grammar : Grammar} {inTag : Bool} {closer : Text}
    (isCloser : closer ∈ tagClosers) (opens : Text.opensWith closer (head :: tail) = true) :
    grammar.stepOf inTag head (Text.withReturns tail) (.tagEnd closer) =
      (grammar.stepOf inTag head tail (.tagEnd closer)).withReturns := by
  rcases List.isPrefixOf_iff_prefix.mp opens with ⟨rest, same⟩
  simp only [tagClosers, List.mem_cons, List.not_mem_nil, or_false] at isCloser
  rcases isCloser with rfl | rfl | rfl
  · rfl
  all_goals
    rcases List.cons.inj same with ⟨rfl, rfl⟩
    rfl

theorem next_withReturns {grammar : Grammar} (noFeed : '\n' ∉ grammar.operators)
    (noReturn : '\r' ∉ grammar.operators) (inTag : Bool) (inLine : isLineBreak head = false)
    (spans : forall quote, .inString quote false ∉ (grammar.next inTag head tail).lineStates) :
    grammar.next inTag head (Text.withReturns tail) =
      (grammar.next inTag head tail).withReturns := by
  have other : head ≠ '\n' := by
    rintro rfl
    exact absurd inLine (by decide)
  have begins := grammar.begins_opening inTag head tail
  rw [next] at spans
  rw [next, next, grammar.opening_withReturns inTag other tail]
  cases kind : grammar.opening inTag head tail with
  | blank =>
      exact stepOf_withReturns_of_rule .whitespace
        (Cut.ignoresReturns_run (by decide) (by decide)) fun _ => rfl
  | lineBreak =>
      rw [kind] at begins
      exact absurd (begins.symm.trans inLine) (by simp)
  | lineComment documentation =>
      exact stepOf_withReturns_of_rule _ Cut.ignoresReturns_toLineEnd fun _ => rfl
  | blockComment =>
      rw [kind] at begins
      rcases begins with ⟨-, front, rfl⟩
      have within : blockCloser.IsWithinLine := by decide
      have noFeed : '\n' ∉ ['*'] := by decide
      exact commentStep_withReturns .blockComment within inTag noFeed front
  | markupComment =>
      rw [kind] at begins
      rcases begins with ⟨-, front, rfl⟩
      have within : markupCloser.IsWithinLine := by decide
      have noFeed : '\n' ∉ ['!', '-', '-'] := by decide
      exact commentStep_withReturns .markupComment within inTag noFeed front
  | tagStart => exact stepOf_withReturns_of_rule .tag ignoresReturns_tagName fun _ => rfl
  | tagEnd closer =>
      rw [kind] at begins
      rcases begins with ⟨isCloser, opens⟩
      exact tagEnd_withReturns isCloser opens
  | string quote tripled =>
      rw [kind] at begins spans
      rcases begins with ⟨rfl, isQuote, quotes⟩
      cases tripled with
      | false =>
          exact grammar.stringStep_withReturns inTag [] tail inLine (by simp) rfl (spans head)
      | true =>
          rcases quotes rfl with ⟨front, rfl⟩
          have noFeed : '\n' ∉ [head, head] := by simpa using Ne.symm other
          exact grammar.stringStep_withReturns inTag [head, head] front inLine noFeed rfl
            (spans head)
  | number =>
      exact stepOf_withReturns_of_rule .number (Numeral.ignoresReturns_cut _ head) fun _ => rfl
  | attributeName =>
      exact stepOf_withReturns_of_rule .attributeName
        (Cut.ignoresReturns_run (by decide +kernel) (by decide +kernel)) fun _ => rfl
  | directive =>
      exact stepOf_withReturns_of_rule .preprocessor
        (Cut.ignoresReturns_run (by decide +kernel) (by decide +kernel)) fun _ => rfl
  | word => exact grammar.wordStep_withReturns inTag head tail
  | operator =>
      have feedOutside : grammar.isOperator '\n' = false := by simpa [isOperator] using noFeed
      have returnOutside : grammar.isOperator '\r' = false := by simpa [isOperator] using noReturn
      exact stepOf_withReturns_of_rule .operator
        (Cut.ignoresReturns_run feedOutside returnOutside) fun _ => rfl
  | single => exact stepOf_withReturns_of_rule _ Cut.ignoresReturns_stop fun _ => rfl

/-! ## Scans -/

/-- Behind a carriage return, a line feed is not in a string of one line. -/
theorem not_oneLine_mem_next {grammar : Grammar} (inTag : Bool)
    (feeds : Text.FeedsBehindReturns (head :: tail)) (quote : Char) :
    .inString quote false ∉ (grammar.next inTag head tail).lineStates := by
  intro member
  rw [next] at member
  cases kind : grammar.opening inTag head tail with
  | lineBreak =>
      have reports : (Step.lineBreak false head tail).Reports (· ≠ .inString quote false) :=
        Step.reports_lineBreak State.noConfusion false head tail
      rw [kind] at member
      exact reports.lineStates _ member rfl
  | blockComment | markupComment =>
      rw [kind] at member
      exact State.noConfusion (Body.eq_of_mem_lineStates member)
  | string mark tripled =>
      rw [kind] at member
      rcases State.inString.inj (Body.eq_of_mem_lineStates member) with ⟨rfl, oneLine⟩
      have inBody : Text.FeedsBehindReturns (tail.drop (if tripled then 2 else 0)) :=
        feeds.tail.suffix (List.drop_suffix _ tail)
      have noFeeds := Body.lineFeeds_ofString_of_feeds quote inBody
      rw [stepOf, stringStep, withBody, Step.ofBody, Body.lineStates, ← oneLine, noFeeds] at member
      exact absurd member (by simp)
  | _ =>
      rw [kind] at member
      exact absurd member (by simp [stepOf, within, wordStep])

/-- No line with a carriage return at its end ends in a string of one line. -/
theorem not_oneLine_mem_scan_withReturns (grammar : Grammar) (text : Text) (quote : Char) :
    .inString quote false ∉ (grammar.scan .normal text.withReturns).lineStates := by
  intro member
  rcases List.mem_flatMap.mp member with ⟨lexeme, inScan, inLexeme⟩
  have feeds := Text.feedsBehindReturns_withReturns text
  have absent : .inString quote false ∉ lexeme.lineStates :=
    Scanner.forall_lexemes_run (.inString quote false ∉ ·.lineStates) .normal false
      (fun inTag head tail isSuffix => not_oneLine_mem_next inTag (feeds.suffix isSuffix) quote)
      lexeme inScan
  exact absent inLexeme

/-- If no line ends in a string of one line, carriage returns make no difference. -/
theorem scan_withReturns {grammar : Grammar} (noFeed : '\n' ∉ grammar.operators)
    (noReturn : '\r' ∉ grammar.operators) {text : Text} (plain : '\r' ∉ text)
    (spans : forall quote, .inString quote false ∉ (grammar.scan .normal text).lineStates) :
    grammar.scan .normal text.withReturns = (grammar.scan .normal text).withReturns := by
  have breaks : forall inTag head tail, isLineBreak head = true ->
      grammar.scanner.next inTag head tail = Step.lineBreak false head tail := by
    intro inTag head tail breaks
    have kind := grammar.opening_of_isLineBreak inTag tail breaks
    simp only [scanner, next, kind, stepOf]
  have steps : forall inTag head tail, isLineBreak head = false ->
      (forall after, after ∈ (grammar.next inTag head tail).lineStates ->
        forall quote, after ≠ .inString quote false) ->
        grammar.next inTag head (Text.withReturns tail) =
          (grammar.next inTag head tail).withReturns := by
    intro inTag head tail inLine reported
    exact next_withReturns noFeed noReturn inTag inLine
      fun quote member => reported _ member quote rfl
  apply Scanner.run_withReturns breaks steps .normal false plain
  rintro after member quote rfl
  exact spans quote member

/--
A text without carriage returns is scanned as it is with a carriage return
before each line feed, token by token and state by state, just if no line feed
in it is escaped in a string of one line.
-/
theorem scan_withReturns_iff {grammar : Grammar} (noFeed : '\n' ∉ grammar.operators)
    (noReturn : '\r' ∉ grammar.operators) {text : Text} (plain : '\r' ∉ text) :
    let scan := grammar.scan .normal text
    let returned := grammar.scan .normal text.withReturns
    ((returned.tokens 0).map (fun token => (token.category, token.text text.withReturns)) =
        (scan.tokens 0).map (fun token => (token.category, (token.text text).withReturns)) ∧
      returned.lineStates = scan.lineStates ∧ returned.endState = scan.endState) ↔
    forall quote, .inString quote false ∉ scan.lineStates := by
  intro scan returned
  constructor
  · rintro ⟨-, states, -⟩ quote
    rw [← states]
    exact grammar.not_oneLine_mem_scan_withReturns text quote
  · intro spans
    have same : returned = scan.withReturns := scan_withReturns noFeed noReturn plain spans
    have covers : scan.Covers text := grammar.covers_scan .normal text
    have returnedCovers : returned.Covers text.withReturns := grammar.covers_scan .normal _
    rw [same] at returnedCovers ⊢
    exact ⟨covers.spelled_withReturns returnedCovers, scan.lineStates_withReturns, rfl⟩

/-- An escaped line feed with a carriage return tears a string apart; a comment stays whole. -/
theorem scan_withReturns_iff_of_escaped_feed :
    let string : Text := ['"', 'a', '\\', '\n', 'b', '"']
    let comment : Text := ['/', '*', '\\', '\n', '*', '/', 'x', '\n']
    '\n' ∉ Grammar.c.operators ∧ '\r' ∉ Grammar.c.operators ∧ '\r' ∉ string ∧ '\r' ∉ comment ∧
      (Grammar.c.scan .normal string).tokens 0 = [⟨.string, 0, 6⟩] ∧
      (Grammar.c.scan .normal string).lineStates = [.inString '"' false] ∧
      (Grammar.c.scan .normal string.withReturns).tokens 0 =
        [⟨.string, 0, 4⟩, ⟨.newline, 4, 5⟩, ⟨.variableName, 5, 6⟩, ⟨.string, 6, 7⟩] ∧
      ¬ (Grammar.c.scan .normal string.withReturns).lineStates =
        (Grammar.c.scan .normal string).lineStates ∧
      (Grammar.c.scan .normal comment.withReturns).lineStates = [.blockComment, .normal] := by
  intro string comment
  have noFeed : '\n' ∉ Grammar.c.operators := by decide
  have noReturn : '\r' ∉ Grammar.c.operators := by decide
  have plain : '\r' ∉ comment := by decide
  have commentStates : (Grammar.c.scan .normal comment).lineStates = [.blockComment, .normal] := by
    decide +kernel
  have spans : forall quote,
      .inString quote false ∉ (Grammar.c.scan .normal comment).lineStates := by
    intro quote
    rw [commentStates]
    simp [State.blockComment]
  have same := ((scan_withReturns_iff noFeed noReturn plain).mpr spans).2.1
  exact ⟨noFeed, noReturn, by decide, plain, by decide +kernel, by decide +kernel,
    by decide +kernel, by decide +kernel, same.trans commentStates⟩

end Grammar
end Lexis
