import Lexis.Proofs.Scanner.LineLocal

namespace Lexis
namespace Scanner

/-!
Line-local scans in pieces.

The main statement is `IsLineLocal.scan_append`: a scan of whole lines and a
scan of the text behind them, from the state that the first one ended in, are
together the scan of both texts.  The induction is on the lexemes of the whole
lines.  Each of them either is over before the lines are, and is the same
whatever follows, or it is the last one, and the scan of what follows begins
with the rest of its body.
-/

variable {Mode : Type} {scanner : Scanner Mode} {fresh inside : Mode} {scan : State -> Text -> Scan}

/--
Two pieces of a body that meet at the end of whole lines are merged.  If
nothing of the second piece is left, what follows there is a line break, which
is no piece of the construct.
-/
theorem IsLineLocal.append_resume (law : scanner.IsLineLocal fresh inside scan)
    {construct : Construct} (isLineLocal : construct.IsLineLocal) {first : Lexeme}
    (same : first.category = construct.category) (text : Text) :
    Scan.append { lexemes := [first], endState := construct.state }
        (scanner.resume construct.category construct.state inside (construct.body text)) =
      (scanner.run ((construct.body text).state construct.state) inside
        (construct.body text).cut.rest).cons
          (first.merge ((construct.body text).lexeme construct.category construct.state)) := by
  have isOpen : (!construct.state.isNormal) = true := by
    simpa [State.isNormal] using isLineLocal.isOpen
  by_cases empty : (construct.body text).cut.taken = []
  · have noFeeds : (construct.body text).lineFeeds = 0 := by
      rw [isLineLocal.lineFeeds, empty]
      rfl
    have unchanged :
        first.merge ((construct.body text).lexeme construct.category construct.state) = first := by
      simp [Lexeme.merge, Body.lexeme, Body.lineStates, empty, noFeeds]
    rw [resume, empty, List.isEmpty_nil, if_pos rfl, unchanged]
    rcases isLineLocal.text_of_taken empty with rfl | ⟨head, tail, breaks, finished⟩
    · rw [isLineLocal.body_nil]
      simp [Body.unfinished, Body.state, Cut.stop, run_nil, Scan.append, Scan.cons, Lexeme.join]
    · have different : (first.category == Category.newline) = false := by
        rw [same]
        simpa using isLineLocal.category_ne
      rw [finished]
      simp only [Body.finished, run_cons, Scan.append, Scan.cons, Lexeme.join, Step.lexeme,
        law.category_lineBreak _ _ _ breaks, different, Bool.and_false, Bool.false_eq_true,
        if_false]
  · have present : (construct.body text).cut.taken.isEmpty = false := by simpa using empty
    rw [resume, present, if_neg (by simp)]
    simp [Scan.append, Scan.cons, Lexeme.join, isOpen, Body.lexeme, same]

/--
A lexeme that ends the text inside a construct is the first piece of the lexeme
of a longer text, whose second piece is the rest of the construct's body.
-/
theorem IsLineLocal.run_append_of_glue (law : scanner.IsLineLocal fresh inside scan) (state : State)
    {construct : Construct} (isLineLocal : construct.IsLineLocal)
    (resumes : scanner.Resumes inside scan construct) {mode after : Mode} {head : Char}
    {tail opener more : Text} {body : Body} (isOpen : body.isOpen = true)
    (now : scanner.next mode head tail =
      Step.ofBody construct.category construct.state after opener body)
    (later : scanner.next mode head (tail ++ more) =
      Step.ofBody construct.category construct.state inside opener
        (body.glue (construct.body more))) :
    scanner.run state mode (head :: (tail ++ more)) =
      Scan.append
        { lexemes := [(scanner.next mode head tail).lexeme head]
          endState := (scanner.next mode head tail).state }
        (scan (scanner.next mode head tail).state more) := by
  have stateOpen : (Step.ofBody construct.category construct.state after opener body).state =
      construct.state := by
    simp [Step.ofBody, Body.state, isOpen]
  rw [run_cons, later, now, stateOpen, resumes more, law.append_resume isLineLocal rfl]
  simp only [Step.ofBody, Step.lexeme, Lexeme.merge, Body.lexeme, Body.lineStates, Body.glue,
    Body.state, Cut.pushAll, List.cons_append, List.append_assoc,
    List.replicate_append_replicate]
  rfl

/-- A lexeme that whole lines leave open is the first piece of one with its body's rest. -/
theorem IsLineLocal.run_append_of_open (law : scanner.IsLineLocal fresh inside scan) (state : State)
    {mode : Mode} {head : Char} {tail : Text} (whole : Text.IsWholeLines (head :: tail))
    (isOpen : (scanner.next mode head tail).state ≠ .normal) (more : Text) :
    scanner.run state mode (head :: (tail ++ more)) =
      Scan.append
        { lexemes := [(scanner.next mode head tail).lexeme head]
          endState := (scanner.next mode head tail).state }
        (scan (scanner.next mode head tail).state more) := by
  cases law.step mode head tail with
  | lineBreak breaks next =>
      have now := next [] (Or.inr rfl)
      rw [List.append_nil] at now
      exact absurd (by rw [now]; rfl) isOpen
  | within category after cut noFeed next =>
      have now := next [] (Or.inr rfl)
      rw [List.append_nil] at now
      exact absurd (by rw [now]) isOpen
  | construct construct reader opener front after isLineLocal read resumes noFeed parts
      inside_after next =>
      have now := next [] (Or.inr rfl)
      have later := next more (Or.inl whole)
      rw [List.append_nil, List.append_nil] at now
      rw [parts, ← List.cons_append] at whole
      rcases whole.behind (by simp) noFeed with ⟨frontWhole, frontNonempty⟩
      have bodyOpen : (reader front).isOpen = true := by
        cases ended : (reader front).isOpen with
        | true => rfl
        | false =>
            rw [now] at isOpen
            exact absurd (by simp [Step.ofBody, Body.state, ended]) isOpen
      have counted := read.lineFeeds_pos frontWhole frontNonempty bodyOpen
      have bothInside : after ((reader front).glue (construct.body more)).lineFeeds = inside :=
        inside_after _ (Nat.lt_of_lt_of_le counted (Nat.le_add_right _ _))
      rw [read.append more frontWhole frontNonempty, Body.before_of_open bodyOpen,
        bothInside] at later
      exact law.run_append_of_glue state isLineLocal resumes bodyOpen now later

/-- A run without lexemes ends as it began. -/
theorem endState_run_of_no_lexemes {state : State} {mode : Mode} {text : Text}
    (none : (scanner.run state mode text).lexemes = []) :
    (scanner.run state mode text).endState = state := by
  cases text with
  | nil => rw [run_nil]
  | cons head tail =>
      rw [run_cons] at none
      exact absurd none (by simp [Scan.cons])

/--
A run over whole lines and the text behind them is the run over the lines and
then the scan of that text from the state they ended in.  The run starts at a
lexeme of the lines, or afresh if there is none.
-/
theorem IsLineLocal.run_append (law : scanner.IsLineLocal fresh inside scan) (state : State)
    (mode : Mode) {front : Text} (more : Text) (whole : front.IsWholeLines)
    (atStart : front = [] -> state = .normal ∧ mode = fresh) :
    scanner.run state mode (front ++ more) =
      (scanner.run state mode front).append
        (scan (scanner.run state mode front).endState more) := by
  fun_induction Scanner.run scanner state mode front with
  | case1 state mode =>
      rcases atStart rfl with ⟨rfl, rfl⟩
      rw [law.scan_normal]
      rfl
  | case2 state mode head tail step ih =>
      have restWhole := Cut.isWholeLines_rest (scanner.whole_cut mode head tail) whole.tail
      have atEnd := (law.step mode head tail).atEnd whole
      by_cases closed : step.state = .normal
      · have same := (law.step mode head tail).next_append whole closed more
        have behind := ih restWhole fun ended => ⟨closed, (atEnd ended).2 closed⟩
        have alone : (scanner.run step.state step.mode step.cut.rest).lexemes = [] ->
            (scanner.run step.state step.mode step.cut.rest).endState = .normal :=
          fun none => (endState_run_of_no_lexemes none).trans closed
        rw [Scan.cons_append _ _ _ alone, List.cons_append, run_cons, same]
        exact congrArg (Scan.cons (step.lexeme head)) behind
      · have ended : step.cut.rest = [] := by
          rcases (law.step mode head tail).state with normal | ⟨_, -, -, -, ended⟩
          · exact absurd normal closed
          · exact ended
        rw [ended, run_nil]
        exact law.run_append_of_open state whole closed more

/-- A text that leaves the construct it begins in open is a single lexeme. -/
theorem Resumes.scan_of_open {construct : Construct}
    (resumes : scanner.Resumes inside scan construct) (isLineLocal : construct.IsLineLocal)
    {text : Text} (nonempty : text ≠ []) (isOpen : (construct.body text).isOpen = true) :
    scan construct.state text =
      { lexemes := [(construct.body text).lexeme construct.category construct.state]
        endState := construct.state } := by
  have present : (construct.body text).cut.taken.isEmpty = false := by
    simpa [isLineLocal.taken_of_open isOpen] using nonempty
  rw [resumes text, resume, present, if_neg (by simp), isLineLocal.rest_of_open isOpen, run_nil]
  simp [Scan.cons, Body.state, isOpen]

/--
A text that begins inside a construct may be scanned before what follows it, if
the construct's body and the run behind the body may be.
-/
theorem IsLineLocal.resume_append_of (law : scanner.IsLineLocal fresh inside scan)
    {construct : Construct} (isLineLocal : construct.IsLineLocal)
    (resumes : scanner.Resumes inside scan construct) {front : Text} (more : Text)
    (both : construct.body (front ++ more) =
      (construct.body front).before more (construct.body more))
    (behind : (construct.body front).isOpen = false ->
      scanner.run .normal inside ((construct.body front).cut.rest ++ more) =
        (scanner.run .normal inside (construct.body front).cut.rest).append
          (scan (scanner.run .normal inside (construct.body front).cut.rest).endState more)) :
    scan construct.state (front ++ more) =
      (scan construct.state front).append (scan (scan construct.state front).endState more) := by
  by_cases nonempty : front = []
  · subst nonempty
    have nothing : scan construct.state [] = { lexemes := [], endState := construct.state } := by
      simp [resumes [], isLineLocal.body_nil, resume, Body.unfinished, Body.state, Cut.stop,
        run_nil]
    rw [nothing]
    rfl
  cases isOpen : (construct.body front).isOpen with
  | true =>
      have present :
          (((construct.body front).glue (construct.body more)).cut.taken).isEmpty = false := by
        simp [Body.glue, Cut.pushAll, isLineLocal.taken_of_open isOpen, nonempty]
      rw [resumes.scan_of_open isLineLocal nonempty isOpen, resumes more,
        law.append_resume isLineLocal rfl, resumes (front ++ more), both,
        Body.before_of_open isOpen, resume, present, if_neg (by simp)]
      simp only [Body.glue, Body.lexeme, Body.lineStates, Body.state, Lexeme.merge, Cut.pushAll,
        List.replicate_append_replicate]
      rfl
  | false =>
      rw [resumes front, resumes (front ++ more), both, Body.before_of_closed isOpen]
      simp only [resume, Body.state, isOpen, Bool.false_eq_true, if_false, Cut.extend,
        Body.lexeme, Body.lineStates]
      rw [behind isOpen]
      split
      · rfl
      · exact (Scan.cons_append _ _ _ endState_run_of_no_lexemes).symm

/--
A text of whole lines that begins inside a construct may be scanned before what
follows it.
-/
theorem IsLineLocal.resume_append (law : scanner.IsLineLocal fresh inside scan)
    {construct : Construct} (isLineLocal : construct.IsLineLocal)
    (resumes : scanner.Resumes inside scan construct) {front : Text} (more : Text)
    (whole : front.IsWholeLines) :
    scan construct.state (front ++ more) =
      (scan construct.state front).append (scan (scan construct.state front).endState more) := by
  by_cases nonempty : front = []
  · subst nonempty
    apply law.resume_append_of isLineLocal resumes more
    · rw [isLineLocal.body_nil, Body.before_unfinished, List.nil_append]
    · intro closed
      exact absurd closed (by simp [isLineLocal.body_nil, Body.unfinished])
  · apply law.resume_append_of isLineLocal resumes more (isLineLocal.append more whole nonempty)
    intro closed
    have restNonempty := isLineLocal.rest_of_closed whole closed nonempty
    have restWhole := Cut.isWholeLines_rest (isLineLocal.whole front) whole
    exact law.run_append .normal inside more restWhole fun none => absurd none restNonempty

/--
A scan may be interrupted after any line and taken up again in the state that it
ended in.
-/
theorem IsLineLocal.scan_append (law : scanner.IsLineLocal fresh inside scan) {state : State}
    (noFeed : state.quote? ≠ some '\n') {front : Text} (more : Text)
    (whole : front.IsWholeLines) :
    scan state (front ++ more) =
      (scan state front).append (scan (scan state front).endState more) := by
  rcases law.scan_state state noFeed with normal | ⟨construct, isLineLocal, resumes, same⟩
  · rw [normal front, normal (front ++ more), law.scan_normal, law.scan_normal]
    exact law.run_append .normal fresh more whole fun _ => ⟨rfl, rfl⟩
  · rw [same front, same (front ++ more)]
    exact law.resume_append isLineLocal resumes more whole

/-! ## The states of a line-local scan -/

theorem IsLineLocal.quote_endState_run (law : scanner.IsLineLocal fresh inside scan) {state : State}
    (noFeed : state.quote? ≠ some '\n') (mode : Mode) (text : Text) :
    (scanner.run state mode text).endState.quote? ≠ some '\n' := by
  fun_induction Scanner.run scanner state mode text with
  | case1 => exact noFeed
  | case2 state mode head tail step ih =>
      apply ih
      rcases (law.step mode head tail).state with normal | ⟨construct, isLineLocal, -, same, -⟩
      · exact normal ▸ by simp [State.quote?]
      · exact same ▸ isLineLocal.quote_ne_feed

/-- No scan leaves a string open that is quoted by line feeds. -/
theorem IsLineLocal.quote_endState (law : scanner.IsLineLocal fresh inside scan) {state : State}
    (noFeed : state.quote? ≠ some '\n') (text : Text) :
    (scan state text).endState.quote? ≠ some '\n' := by
  have normal : State.normal.quote? ≠ some '\n' := by simp [State.quote?]
  rcases law.scan_state state noFeed with same | ⟨construct, isLineLocal, resumes, same⟩
  · rw [same, law.scan_normal]
    exact law.quote_endState_run normal fresh text
  · have entry : ((construct.body text).state construct.state).quote? ≠ some '\n' := by
      rw [Body.state]
      split
      · exact isLineLocal.quote_ne_feed
      · exact normal
    have behind := law.quote_endState_run entry inside (construct.body text).cut.rest
    rw [same, resumes, resume]
    split
    · exact behind
    · exact behind

theorem IsLineLocal.lineFeeds_run (law : scanner.IsLineLocal fresh inside scan) (state : State)
    (mode : Mode) (text : Text) :
    (scanner.run state mode text).lineStates.length = text.lineFeeds := by
  fun_induction Scanner.run scanner state mode text with
  | case1 => rfl
  | case2 state mode head tail step ih =>
      have count := (law.step mode head tail).lineFeeds
      have parts := scanner.whole_cut mode head tail
      have split : (step.lexeme head).lineStates.length +
          (scanner.run step.state step.mode step.cut.rest).lineStates.length =
            Text.lineFeeds (head :: tail) := by
        rw [ih, ← parts, Cut.whole, ← List.cons_append, Text.lineFeeds_append, ← count]
        rfl
      simpa [Scan.lineStates, Scan.cons] using split

/-- A scan reports one state for each line feed of its text. -/
theorem IsLineLocal.lineFeeds_scan (law : scanner.IsLineLocal fresh inside scan) {state : State}
    (noFeed : state.quote? ≠ some '\n') (text : Text) :
    (scan state text).lineStates.length = text.lineFeeds := by
  rcases law.scan_state state noFeed with same | ⟨construct, isLineLocal, resumes, same⟩
  · rw [same, law.scan_normal]
    exact law.lineFeeds_run .normal fresh text
  · have count := isLineLocal.lineFeeds text
    have behind := law.lineFeeds_run ((construct.body text).state construct.state) inside
      (construct.body text).cut.rest
    have parts := congrArg Text.lineFeeds (isLineLocal.whole text)
    rw [Cut.whole, Text.lineFeeds_append, ← count, ← behind] at parts
    rw [same, resumes, resume, ← parts]
    split
    · next empty =>
        have none : (construct.body text).lineFeeds = 0 := by
          rw [count, List.isEmpty_iff.mp empty]
          rfl
        rw [none, Nat.zero_add]
    · simp [Scan.lineStates, Scan.cons, Body.lexeme, Body.lineStates]

theorem IsLineLocal.getLast?_lineStates_run (law : scanner.IsLineLocal fresh inside scan)
    (state : State) (mode : Mode) {text : Text} (whole : text.IsWholeLines) (nonempty : text ≠ []) :
    (scanner.run state mode text).lineStates.getLast? =
      some (scanner.run state mode text).endState := by
  fun_induction Scanner.run scanner state mode text with
  | case1 => exact absurd rfl nonempty
  | case2 state mode head tail step ih =>
      have restWhole := Cut.isWholeLines_rest (scanner.whole_cut mode head tail) whole.tail
      have states : ((scanner.run step.state step.mode step.cut.rest).cons
          (step.lexeme head)).lineStates =
            step.lineStates ++ (scanner.run step.state step.mode step.cut.rest).lineStates := by
        simp [Scan.lineStates, Scan.cons, Step.lexeme]
      rw [states, List.getLast?_append]
      by_cases ended : step.cut.rest = []
      · rw [ended, run_nil]
        exact ((law.step mode head tail).atEnd whole ended).1
      · rw [ih restWhole ended]
        rfl

/-- The last state that a scan of whole lines reports is the one that it ends in. -/
theorem IsLineLocal.getLast?_lineStates (law : scanner.IsLineLocal fresh inside scan)
    {state : State} (noFeed : state.quote? ≠ some '\n') {text : Text} (whole : text.IsWholeLines)
    (nonempty : text ≠ []) :
    (scan state text).lineStates.getLast? = some (scan state text).endState := by
  rcases law.scan_state state noFeed with same | ⟨construct, isLineLocal, resumes, same⟩
  · rw [same, law.scan_normal]
    exact law.getLast?_lineStates_run .normal fresh whole nonempty
  · cases isOpen : (construct.body text).isOpen with
    | true =>
        have counted := isLineLocal.lineFeeds_pos whole nonempty isOpen
        rw [same, resumes.scan_of_open isLineLocal nonempty isOpen]
        simp [Scan.lineStates, Body.lexeme, Body.lineStates, List.getLast?_replicate,
          Nat.ne_of_gt counted]
    | false =>
        have restNonempty := isLineLocal.rest_of_closed whole isOpen nonempty
        have restWhole := Cut.isWholeLines_rest (isLineLocal.whole text) whole
        have last := law.getLast?_lineStates_run ((construct.body text).state construct.state)
          inside restWhole restNonempty
        rw [same, resumes, resume]
        split
        · exact last
        · rw [Scan.lineStates, Scan.cons, List.flatMap_cons, List.getLast?_append]
          rw [Scan.lineStates] at last
          rw [last]
          rfl

end Scanner
end Lexis
