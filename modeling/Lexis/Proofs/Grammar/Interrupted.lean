import Lexis.Proofs.Grammar.LineLocal
import Lexis.Proofs.Grammar.Lookahead
import Lexis.Proofs.Scanner.Covers

namespace Lexis

/-!
Scans that stop inside a string or comment.

A scan may be interrupted anywhere inside an open construct, not only where a
line ends, as long as the last character does not count together with the next
one (`State.pending`).  `Grammar.scan_interrupted` says so for grammars without
tags: a scan that is taken up again in the state it stopped in finds what a
single scan finds.

An open construct takes all that is left of the text, so every lexeme in front
of it has the construct's opener behind it.  That is as far as it can look
ahead, and it stays the same when the text goes on.
-/

/--
The characters of an open construct that count together with the next one: those
that may begin its closer, and the backslash of a string.
-/
def State.pending : State -> List Char
  | .normal => []
  | .inString quote _ => ['\\', quote]
  | .inComment _ markup => if markup then ['-'] else ['*']

/-- The construct's body may be read in two pieces unless a pending character ends the first. -/
def Construct.IsInterruptible (construct : Construct) : Prop :=
  forall {text : Text} (more : Text),
    ((construct.body text).isOpen = true -> text.EndsOutside construct.state.pending) ->
      construct.body (text ++ more) =
        (construct.body text).before more (construct.body more)

namespace Grammar

theorem isInterruptible_string (quote : Char) (multiline : Bool) :
    (stringConstruct quote multiline).IsInterruptible :=
  fun more outside => Body.ofString_append multiline more outside

theorem isInterruptible_comment (markup : Bool) : (commentConstruct markup).IsInterruptible := by
  intro text more outside
  apply Body.ofComment_append more
  intro isOpen last isLast inside
  apply outside isOpen last isLast
  cases markup with
  | false => exact inside
  | true => simpa [commentConstruct, closer, markupCloser, State.pending] using inside

variable {grammar : Grammar} {head : Char} {tail : Text}

/-! ## Lexemes outside of tags -/

/--
The lexeme at a place is a construct, whose opener consists of `head` and
`opener`.  Nothing that is added to the text makes it another, unless it is
added behind a pending character.
-/
structure OpensConstruct (grammar : Grammar) (head : Char) (tail : Text) (construct : Construct)
    (opener front : Text) : Prop where
  isLineLocal : construct.IsLineLocal
  isInterruptible : construct.IsInterruptible
  resumes : grammar.scanner.Resumes false grammar.scan construct
  isMark : head ∈ constructMarks
  parts : tail = opener ++ front
  pending : tail = [] -> head ∈ construct.state.pending
  opening_append : forall more, Text.EndsOutside construct.state.pending (head :: tail) ->
    grammar.opening false head (tail ++ more) = grammar.opening false head tail
  next_append : forall more,
    grammar.opening false head (tail ++ more) = grammar.opening false head tail ->
      grammar.next false head (tail ++ more) =
        Step.ofBody construct.category construct.state false opener (construct.body (front ++ more))

theorem opensConstruct_comment {opener front : Text} {markup : Bool} {kind : Opening}
    (isMark : head ∈ constructMarks) (present : opener ≠ []) (parts : tail = opener ++ front)
    (opens : forall more, grammar.opening false head (tail ++ more) = kind)
    (stepOf : forall more, grammar.stepOf false head (tail ++ more) kind =
      Step.ofBody .comment (commentConstruct markup).state false opener
        ((commentConstruct markup).body (front ++ more))) :
    grammar.OpensConstruct head tail (commentConstruct markup) opener front where
  isLineLocal := isLineLocal_comment markup
  isInterruptible := isInterruptible_comment markup
  resumes := grammar.resumes_comment markup
  isMark := isMark
  parts := parts
  pending none := absurd (List.append_eq_nil_iff.mp (parts.symm.trans none)).1 present
  opening_append more _ := by
    have now := opens []
    rw [List.append_nil] at now
    rw [opens, now]
  next_append more _ := by
    rw [next, opens, stepOf]
    rfl

theorem opensConstruct_string {quote : Char} {tripled : Bool} {opener front : Text}
    (isQuote : grammar.features.isQuote quote = true)
    (opens : grammar.opening false quote tail = .string quote tripled)
    (quotes : opener = if tripled then [quote, quote] else []) (parts : tail = opener ++ front) :
    grammar.OpensConstruct quote tail
      (stringConstruct quote (tripled || quote == '`' && grammar.features.multilineStrings))
      opener front where
  isLineLocal := by
    apply isLineLocal_string
    rcases isQuote_cases isQuote with rfl | rfl | rfl <;> decide
  isInterruptible := isInterruptible_string quote _
  resumes := grammar.resumes_string quote _
  isMark := by rcases isQuote_cases isQuote with rfl | rfl | rfl <;> decide
  parts := parts
  pending _ := by simp [stringConstruct, State.pending]
  opening_append more outside := by
    have same : Text.opensWith (Body.tripled quote) (quote :: (tail ++ more)) =
        Text.opensWith (Body.tripled quote) (quote :: tail) := by
      apply Body.opensWith_tripled_append more
      intro last isLast inside
      exact outside last isLast (List.mem_cons_of_mem _ inside)
    rw [opening_of_quote isQuote, opening_of_quote isQuote, Features.opensTripled, same,
      Features.opensTripled]
  next_append more same := by
    rw [next, same, opens, parts, quotes]
    cases tripled <;> rfl

variable {construct : Construct} {opener front : Text}

theorem OpensConstruct.now (opens : grammar.OpensConstruct head tail construct opener front) :
    grammar.next false head tail =
      Step.ofBody construct.category construct.state false opener (construct.body front) := by
  have now := opens.next_append [] (by rw [List.append_nil])
  rwa [List.append_nil, List.append_nil] at now

theorem OpensConstruct.state (opens : grammar.OpensConstruct head tail construct opener front) :
    (grammar.next false head tail).state = (construct.body front).state construct.state := by
  rw [opens.now]
  rfl

theorem OpensConstruct.isOpen_iff
    (opens : grammar.OpensConstruct head tail construct opener front) :
    (construct.body front).isOpen = true ↔ (grammar.next false head tail).state ≠ .normal := by
  rw [opens.state, Body.state]
  cases (construct.body front).isOpen with
  | false => simp
  | true => simpa using opens.isLineLocal.isOpen

/-- A construct that is over is the same lexeme in a longer text. -/
theorem OpensConstruct.next_extend
    (opens : grammar.OpensConstruct head tail construct opener front)
    (closed : (grammar.next false head tail).state = .normal) {more : Text}
    (same : grammar.opening false head (tail ++ more) = grammar.opening false head tail) :
    grammar.next false head (tail ++ more) = (grammar.next false head tail).extend more := by
  have goesOn : ¬ (construct.body front).isOpen = true :=
    fun isOpen => opens.isOpen_iff.mp isOpen closed
  have both := opens.isInterruptible more fun isOpen => absurd isOpen goesOn
  rw [opens.next_append more same, opens.now, both,
    Body.before_of_closed (Bool.eq_false_iff.mpr goesOn)]
  rfl

/-- A construct that is left open takes all of the text. -/
theorem OpensConstruct.of_open (opens : grammar.OpensConstruct head tail construct opener front)
    (isOpen : (grammar.next false head tail).state ≠ .normal) :
    (construct.body front).isOpen = true ∧
      (grammar.next false head tail).state = construct.state ∧
        (grammar.next false head tail).cut.rest = [] := by
  have bodyOpen := opens.isOpen_iff.mpr isOpen
  refine ⟨bodyOpen, ?_, ?_⟩
  · rw [opens.state, Body.state, if_pos bodyOpen]
  · rw [opens.now]
    exact opens.isLineLocal.rest_of_open bodyOpen

/-- The lexeme is not a construct, and if an opener follows it, the text may be longer. -/
def IsSettled (grammar : Grammar) (head : Char) (tail : Text) (kind : Opening) : Prop :=
  (grammar.stepOf false head tail kind).state = .normal ∧
    forall more, (grammar.stepOf false head tail kind).cut.rest.HoldsOpener ->
      grammar.stepOf false head (tail ++ more) kind =
        (grammar.stepOf false head tail kind).extend more

/-- A rule need not look behind the first character of an opener. -/
theorem isSettled_of_rule {kind : Opening} (category : Category) {rule : Text -> Cut}
    (looksAhead : Cut.LooksAhead 2 rule)
    (stepOf : forall text,
      grammar.stepOf false head text kind = within category false (rule text)) :
    grammar.IsSettled head tail kind := by
  constructor
  · rw [stepOf]
    rfl
  · intro more holds
    rw [stepOf] at holds
    rw [stepOf, stepOf, looksAhead.append more holds.two_le_length]
    rfl

theorem isSettled_of_run {kind : Opening} (category : Category) {inClass : Char -> Bool}
    (stepOf : forall text, grammar.stepOf false head text kind =
      within category false (Cut.run inClass text)) : grammar.IsSettled head tail kind :=
  isSettled_of_rule category ((Cut.looksAhead_run inClass).mono (by decide)) stepOf

theorem isSettled_lineBreak (breaks : isLineBreak head = true) :
    grammar.IsSettled head tail .lineBreak := by
  constructor
  · rfl
  · intro more holds
    apply Step.lineBreak_append false more breaks
    rintro - rfl
    have whole := Step.whole_lineBreak false head []
    rw [Cut.whole, List.append_eq_nil_iff] at whole
    have short := holds.two_le_length
    simp only [stepOf] at short
    rw [whole.2] at short
    exact absurd short (by simp)

/-- An opener is no space, so it is told whether a parenthesis follows the spaces. -/
theorem callFollows_append_of_holds {text : Text} (holds : text.HoldsOpener) (more : Text) :
    callFollows (text ++ more) = callFollows text := by
  have left : (Cut.run (· == ' ') text).rest ≠ [] := by
    intro none
    have spaces := Cut.whole_run (· == ' ') text
    rw [Cut.whole, none, List.append_nil] at spaces
    rcases holds with ⟨front, mark, back, rfl, isMark, -⟩
    have inSpaces : mark ∈ (Cut.run (· == ' ') (front ++ mark :: back)).taken := by
      rw [spaces]
      simp
    have isSpace := List.all_eq_true.mp List.all_takeWhile mark inSpaces
    rw [beq_iff_eq] at isSpace
    subst isSpace
    exact absurd isMark (by decide)
  have same := (Cut.looksAhead_run (· == ' ')).append more (List.length_pos_iff.mpr left)
  rcases List.exists_cons_of_ne_nil left with ⟨first, rest, parts⟩
  have longer := congrArg Cut.rest same
  rw [Cut.extend, parts] at longer
  simp only [Cut.run] at longer parts
  rw [callFollows, callFollows, longer, parts]
  rfl

theorem isSettled_word : grammar.IsSettled head tail .word := by
  constructor
  · rfl
  · intro more holds
    have same := (Cut.looksAhead_run isWordPart).append more
      (Nat.le_trans (by decide) holds.two_le_length)
    have call := callFollows_append_of_holds holds more
    simp only [stepOf, wordStep, within] at call ⊢
    simp only [same, Cut.extend, wordCategory, call]
    rfl

/-- Outside of tags a lexeme is a construct, or it is settled before the next one. -/
theorem opensConstruct_or_isSettled (noTags : grammar.features.tags = false) (head : Char)
    (tail : Text) :
    (exists construct opener front, grammar.OpensConstruct head tail construct opener front) ∨
      grammar.IsSettled head tail (grammar.opening false head tail) := by
  have begins := grammar.begins_opening false head tail
  have announces := grammar.announces_opening false head tail
  cases kind : grammar.opening false head tail with
  | blank => exact Or.inr (isSettled_of_run .whitespace fun _ => rfl)
  | lineBreak =>
      rw [kind] at begins
      exact Or.inr (isSettled_lineBreak begins)
  | lineComment documentation => exact Or.inr (isSettled_of_run _ fun _ => rfl)
  | blockComment =>
      rw [kind] at begins announces
      rcases begins with ⟨-, front, rfl⟩
      rcases List.isPrefixOf_iff_prefix.mp announces with ⟨_, same⟩
      rcases List.cons.inj same with ⟨rfl, -⟩
      exact Or.inl ⟨commentConstruct false, ['*'], front,
        opensConstruct_comment (by decide) (by simp) rfl
          (fun more => grammar.opening_of_star false (front ++ more)) fun _ => rfl⟩
  | markupComment =>
      rw [kind] at begins announces
      rcases begins with ⟨-, front, rfl⟩
      rcases announces with ⟨markup, opens⟩
      rcases List.isPrefixOf_iff_prefix.mp opens with ⟨_, same⟩
      rcases List.cons.inj same with ⟨rfl, -⟩
      exact Or.inl ⟨commentConstruct true, ['!', '-', '-'], front,
        opensConstruct_comment (by decide) (by simp) rfl
          (fun more => opening_of_markup false markup (front ++ more)) fun _ => rfl⟩
  | tagStart | tagEnd closer =>
      rw [kind] at announces
      exact absurd (announces.symm.trans noTags) (by simp)
  | string quote tripled =>
      rw [kind] at begins
      rcases begins with ⟨rfl, isQuote, quotes⟩
      cases tripled with
      | false => exact Or.inl ⟨_, [], tail, opensConstruct_string isQuote kind rfl rfl⟩
      | true =>
          rcases quotes rfl with ⟨front, rfl⟩
          exact Or.inl ⟨_, [head, head], front, opensConstruct_string isQuote kind rfl rfl⟩
  | number =>
      exact Or.inr (isSettled_of_rule .number (Numeral.looksAhead_cut _ head) fun _ => rfl)
  | attributeName => exact Or.inr (isSettled_of_run .attributeName fun _ => rfl)
  | directive => exact Or.inr (isSettled_of_run .preprocessor fun _ => rfl)
  | word => exact Or.inr isSettled_word
  | operator => exact Or.inr (isSettled_of_run .operator fun _ => rfl)
  | single =>
      exact Or.inr (isSettled_of_rule _ (Cut.looksAhead_stop.mono (by decide)) fun _ => rfl)

/-- A lexeme outside of tags is left open only as a construct that takes all of the text. -/
theorem exists_construct_of_open (noTags : grammar.features.tags = false)
    (isOpen : (grammar.next false head tail).state ≠ .normal) :
    exists construct opener front, grammar.OpensConstruct head tail construct opener front ∧
      (construct.body front).isOpen = true ∧
        (grammar.next false head tail).state = construct.state ∧
          (grammar.next false head tail).cut.rest = [] := by
  rcases opensConstruct_or_isSettled noTags head tail with
    ⟨construct, opener, front, opens⟩ | settled
  · exact ⟨construct, opener, front, opens, opens.of_open isOpen⟩
  · exact absurd settled.1 isOpen

/-! ## Before an opener -/

theorem mode_next (noTags : grammar.features.tags = false) (head : Char) (tail : Text) :
    (grammar.next false head tail).mode = false := by
  have announces := grammar.announces_opening false head tail
  rw [next]
  cases kind : grammar.opening false head tail with
  | tagStart =>
      rw [kind] at announces
      exact absurd (announces.symm.trans noTags) (by simp)
  | _ => rfl

/-- Behind the characters of a line comment, the line's end is left. -/
theorem breaks_of_rest_toLineEnd {text : Text} (left : (Cut.toLineEnd text).rest ≠ []) :
    exists character, character ∈ text ∧ isLineBreak character = true := by
  rcases List.exists_cons_of_ne_nil left with ⟨character, rest, parts⟩
  refine ⟨character, ?_, ?_⟩
  · rw [← Cut.whole_toLineEnd text, Cut.whole, parts]
    simp
  · have stops := List.head?_dropWhile_not (fun character => !isLineBreak character) text
    simp only [Cut.toLineEnd, Cut.run] at parts
    rw [parts] at stops
    simpa using stops

/-- If an opener follows a lexeme, the kind of the lexeme is settled. -/
theorem opening_append_of_rest (noTags : grammar.features.tags = false) (more : Text)
    (holds : (grammar.next false head tail).cut.rest.HoldsOpener) :
    grammar.opening false head (tail ++ more) = grammar.opening false head tail := by
  apply opening_append_of_holds noTags more
  · rw [← grammar.scanner.whole_cut false head tail]
    exact holds.behind _
  · intro slashes
    rcases List.isPrefixOf_iff_prefix.mp slashes with ⟨rest, same⟩
    rcases List.cons.inj same with ⟨rfl, sameTail⟩
    subst sameTail
    have kind := opening_of_slashes grammar false rest
    have rule : (grammar.next false '/' (['/'].append rest)).cut =
        Cut.toLineEnd (['/'].append rest) := by
      rw [next]
      exact kind ▸ rfl
    rw [rule] at holds
    exact breaks_of_rest_toLineEnd (List.ne_nil_of_length_pos
      (Nat.lt_of_lt_of_le (by decide) holds.two_le_length))

/-- A lexeme before an opener is the same if the text goes on behind the opener. -/
theorem next_append_of_rest (noTags : grammar.features.tags = false)
    (closed : (grammar.next false head tail).state = .normal) (more : Text)
    (holds : (grammar.next false head tail).cut.rest.HoldsOpener) :
    grammar.next false head (tail ++ more) = (grammar.next false head tail).extend more := by
  have same := opening_append_of_rest noTags more holds
  rcases opensConstruct_or_isSettled noTags head tail with
    ⟨construct, opener, front, opens⟩ | settled
  · exact opens.next_extend closed same
  · rw [next, same]
    exact settled.2 more holds

variable {state : State} {mode : Bool} {text : Text}

/-- A text that ends inside a construct has the construct's opener in it. -/
theorem holdsOpener_of_open (noTags : grammar.features.tags = false) (entry : state = .normal)
    (outsideTags : mode = false)
    (isOpen : (grammar.scanner.run state mode text).endState ≠ .normal)
    (outside : text.EndsOutside (grammar.scanner.run state mode text).endState.pending) :
    text.HoldsOpener := by
  fun_induction Scanner.run grammar.scanner state mode text with
  | case1 state => exact absurd entry isOpen
  | case2 state mode head tail step ih =>
      subst outsideTags
      have whole : (head :: step.cut.taken) ++ step.cut.rest = head :: tail :=
        congrArg (head :: ·) (grammar.scanner.whole_cut false head tail)
      by_cases closed : step.state = .normal
      · rw [← whole] at outside ⊢
        exact (ih closed (mode_next noTags head tail) isOpen outside.right).behind _
      · rcases exists_construct_of_open noTags closed with
          ⟨construct, opener, front, opens, -, stateSame, ended⟩
        have endSame : (grammar.scanner.run step.state step.mode step.cut.rest).endState =
            construct.state := by
          rw [show step.cut.rest = [] from ended, Scanner.run_nil]
          exact stateSame
        -- A string of which only the quote is there would end with a pending character.
        have present : tail ≠ [] := by
          intro none
          have last : (head :: tail).getLast? = some head := by rw [none]; rfl
          apply outside head last
          rw [Scan.cons, endSame]
          exact opens.pending none
        exact ⟨[], head, tail, rfl, opens.isMark, present⟩

/-! ## Interrupted scans -/

/-- A run that ends inside a construct may be followed by the scan of more text. -/
theorem run_append_of_open (noTags : grammar.features.tags = false)
    (law : grammar.scanner.IsLineLocal false false grammar.scan) (more : Text)
    (entry : state = .normal) (outsideTags : mode = false)
    (isOpen : (grammar.scanner.run state mode text).endState ≠ .normal)
    (outside : text.EndsOutside (grammar.scanner.run state mode text).endState.pending) :
    grammar.scanner.run state mode (text ++ more) =
      (grammar.scanner.run state mode text).append
        (grammar.scan (grammar.scanner.run state mode text).endState more) := by
  fun_induction Scanner.run grammar.scanner state mode text with
  | case1 state => exact absurd entry isOpen
  | case2 state mode head tail step ih =>
      subst outsideTags
      have whole : (head :: step.cut.taken) ++ step.cut.rest = head :: tail :=
        congrArg (head :: ·) (grammar.scanner.whole_cut false head tail)
      by_cases closed : step.state = .normal
      -- What is left of the text ends inside the same construct, so it has an opener in it.
      · have outsideTags := mode_next noTags head tail
        rw [← whole] at outside
        have holds := holdsOpener_of_open noTags closed outsideTags isOpen outside.right
        have same := next_append_of_rest noTags closed more holds
        have behind := ih closed outsideTags isOpen outside.right
        have alone : (grammar.scanner.run step.state step.mode step.cut.rest).lexemes = [] ->
            (grammar.scanner.run step.state step.mode step.cut.rest).endState = .normal :=
          fun none => (Scanner.endState_run_of_no_lexemes none).trans closed
        rw [Scan.cons_append _ _ _ alone, List.cons_append, Scanner.run_cons]
        simp only [Grammar.scanner, same]
        exact congrArg (Scan.cons (step.lexeme head)) behind
      · rcases exists_construct_of_open noTags closed with
          ⟨construct, opener, front, opens, bodyOpen, stateSame, ended⟩
        rw [show step.cut.rest = [] from ended, Scanner.run_nil] at outside ⊢
        rw [Scan.cons, show step.state = construct.state from stateSame] at outside
        have inBody : front.EndsOutside construct.state.pending := by
          rw [opens.parts] at outside
          exact Text.EndsOutside.right
            (show Text.EndsOutside _ ((head :: opener) ++ front) from outside)
        have later := opens.next_append more (opens.opening_append more outside)
        rw [opens.isInterruptible more fun _ => inBody, Body.before_of_open bodyOpen] at later
        exact law.run_append_of_glue state opens.isLineLocal opens.resumes bodyOpen opens.now later

/-- A text that begins inside a construct and ends inside one may be followed by more text. -/
theorem resume_append_of_open (noTags : grammar.features.tags = false)
    (law : grammar.scanner.IsLineLocal false false grammar.scan)
    (isLineLocal : construct.IsLineLocal) (isInterruptible : construct.IsInterruptible)
    (resumes : grammar.scanner.Resumes false grammar.scan construct) (more : Text)
    (isOpen : (grammar.scan construct.state text).endState ≠ .normal)
    (outside : text.EndsOutside (grammar.scan construct.state text).endState.pending) :
    grammar.scan construct.state (text ++ more) =
      (grammar.scan construct.state text).append
        (grammar.scan (grammar.scan construct.state text).endState more) := by
  apply law.resume_append_of isLineLocal resumes more
  · apply isInterruptible more
    intro bodyOpen
    by_cases nonempty : text = []
    · subst nonempty
      intro last isLast
      exact absurd isLast (by simp)
    · rw [resumes.scan_of_open isLineLocal nonempty bodyOpen] at outside
      exact outside
  · intro closed
    have endSame : (grammar.scan construct.state text).endState =
        (grammar.scanner.run .normal false (construct.body text).cut.rest).endState := by
      simp only [resumes text, Scanner.resume, Body.state, closed, Bool.false_eq_true, if_false]
      split <;> rfl
    have parts : (construct.body text).cut.taken ++ (construct.body text).cut.rest = text :=
      isLineLocal.whole text
    rw [endSame] at isOpen outside
    have inRest : Text.EndsOutside
        (grammar.scanner.run .normal false (construct.body text).cut.rest).endState.pending
        ((construct.body text).cut.taken ++ (construct.body text).cut.rest) := by
      rw [parts]
      exact outside
    exact run_append_of_open noTags law more rfl rfl isOpen inRest.right

theorem scan_append_of_open (noTags : grammar.features.tags = false)
    (noFeed : '\n' ∉ grammar.operators) (quote : state.quote? ≠ some '\n') (more : Text)
    (isOpen : (grammar.scan state text).endState ≠ .normal)
    (outside : text.EndsOutside (grammar.scan state text).endState.pending) :
    grammar.scan state (text ++ more) =
      (grammar.scan state text).append
        (grammar.scan (grammar.scan state text).endState more) := by
  have law := isLineLocal_scanner noFeed
  cases state with
  | normal => exact run_append_of_open noTags law more rfl rfl isOpen outside
  | inString mark multiline =>
      have markOther : mark ≠ '\n' := fun same => quote (congrArg some same)
      exact resume_append_of_open noTags law (isLineLocal_string markOther multiline)
        (isInterruptible_string mark multiline) (grammar.resumes_string mark multiline) more
        isOpen outside
  | inComment multiline markup =>
      exact resume_append_of_open noTags law (isLineLocal_comment markup)
        (isInterruptible_comment markup) (grammar.resumes_comment markup) more isOpen outside

/--
A scan that stops inside a string or comment, but not behind a pending character
of it, may be taken up there by a second one.  The tokens of both, with the two
pieces of the open construct made one, are those of a single scan, and so are
the states.
-/
theorem scan_interrupted (noTags : grammar.features.tags = false)
    (noFeed : '\n' ∉ grammar.operators) (state : State) (quote : state.quote? ≠ some '\n')
    (front more : Text) (base : Nat) (isOpen : (grammar.scan state front).endState ≠ .normal)
    (outside : front.EndsOutside (grammar.scan state front).endState.pending) :
    let first := grammar.scan state front
    let second := grammar.scan first.endState more
    let both := grammar.scan state (front ++ more)
    both.tokens base =
        Token.join true (first.tokens base) (second.tokens (base + front.size)) ∧
      both.lineStates = first.lineStates ++ second.lineStates ∧
      both.endState = second.endState := by
  intro first second both
  have appended : both = first.append second := scan_append_of_open noTags noFeed quote more isOpen
    outside
  have inside : (!first.endState.isNormal) = true := by simpa [State.isNormal] using isOpen
  have spelled : first.text = front := (grammar.covers_scan state front).text_eq
  rw [appended]
  refine ⟨?_, Scan.lineStates_append first second, rfl⟩
  rw [Scan.tokens_append, inside, spelled]

/-- A string that is cut between two words, with a call and a number in front of it. -/
theorem scan_interrupted_in_string :
    let grammar : Grammar := { operators := ['=', '/'] }
    let front : Text := ['x', '=', 'f', ' ', '(', '1', '.', '"', 'a']
    grammar.features.tags = false ∧ '\n' ∉ grammar.operators ∧
      State.normal.quote? ≠ some '\n' ∧
      (grammar.scan .normal front).endState = .inString '"' false ∧
      front.EndsOutside (State.inString '"' false).pending ∧
      (grammar.scan .normal (front ++ ['\\', '"', 'b', '"', '/', '*'])).tokens 3 =
        [⟨.variableName, 3, 4⟩, ⟨.operator, 4, 5⟩, ⟨.function, 5, 6⟩, ⟨.whitespace, 6, 7⟩,
          ⟨.delimiter, 7, 8⟩, ⟨.number, 8, 9⟩, ⟨.punctuation, 9, 10⟩, ⟨.string, 10, 16⟩,
          ⟨.comment, 16, 18⟩] := by
  intro grammar front
  have ended : (grammar.scan .normal front).endState = .inString '"' false := by decide +kernel
  have outside : front.EndsOutside (State.inString '"' false).pending := by
    intro last isLast
    rcases Option.some.inj isLast with rfl
    decide
  have noFeed : '\n' ∉ grammar.operators := by decide
  have noQuote : State.normal.quote? ≠ some '\n' := by decide
  rcases scan_interrupted rfl noFeed .normal noQuote front ['\\', '"', 'b', '"', '/', '*'] 3
    (by rw [ended]; decide) (by rw [ended]; exact outside) with ⟨joined, -, -⟩
  exact ⟨rfl, noFeed, noQuote, ended, outside, joined.trans (by decide +kernel)⟩

end Grammar
end Lexis
