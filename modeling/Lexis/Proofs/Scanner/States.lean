import Lexis.Scanner

namespace Lexis

/-!
Which states a scan can report.

A scan is in a state only because some lexeme opened it, or because the text
begins in it.  So a property of states that every lexeme respects is respected
by every scan (`Scanner.endStates_run`, `Scanner.endStates_resume`).
-/

variable {Mode : Type} {allowed : State -> Prop}

namespace Body

variable {body : Body} {construct state : State}

theorem eq_of_mem_lineStates (member : state ∈ body.lineStates construct) : state = construct :=
  List.eq_of_mem_replicate member

theorem allowed_state (normal : allowed .normal) (inside : allowed construct) (body : Body) :
    allowed (body.state construct) := by
  rw [Body.state]
  split
  · exact inside
  · exact normal

end Body

/-- The step reports states of one kind only, at its line ends and behind it. -/
structure Step.Reports (allowed : State -> Prop) (step : Step Mode) : Prop where
  lineStates : forall state, state ∈ step.lineStates -> allowed state
  state : allowed step.state

namespace Step

/-- A lexeme that leaves nothing open and ends no line, or only lines outside of constructs. -/
theorem reports_of_closed {step : Step Mode} (normal : allowed .normal)
    (lineStates : forall state, state ∈ step.lineStates -> state = .normal)
    (closed : step.state = .normal) : step.Reports allowed where
  lineStates state member := by
    rw [lineStates state member]
    exact normal
  state := by
    rw [closed]
    exact normal

theorem reports_lineBreak (normal : allowed .normal) (mode : Mode) (head : Char) (tail : Text) :
    (lineBreak mode head tail).Reports allowed := by
  apply reports_of_closed normal
  · intro state member
    have oneOrNone : forall ends : Bool, state ∈ (if ends then [State.normal] else []) ->
        state = .normal := by
      intro ends inEnds
      cases ends with
      | false => exact absurd inEnds (by simp)
      | true => exact List.mem_singleton.mp inEnds
    exact oneOrNone _ member
  · rfl

theorem reports_ofBody (normal : allowed .normal) (category : Category) {construct : State}
    (inside : allowed construct) (mode : Mode) (opener : Text) (body : Body) :
    (ofBody category construct mode opener body).Reports allowed where
  lineStates state member := by
    rw [Body.eq_of_mem_lineStates member]
    exact inside
  state := body.allowed_state normal inside

end Step

namespace Scanner

variable {scanner : Scanner Mode}

/-- What every lexeme respects and the state before the text as well, a run respects. -/
theorem endStates_run
    (steps : forall mode head tail, (scanner.next mode head tail).Reports allowed)
    {state : State} (entry : allowed state) (mode : Mode) (text : Text) :
    forall reported, reported ∈ (scanner.run state mode text).endStates -> allowed reported := by
  fun_induction Scanner.run scanner state mode text with
  | case1 state =>
      intro reported member
      rw [List.mem_singleton.mp member]
      exact entry
  | case2 state mode head tail step ih =>
      have reports := steps mode head tail
      intro reported member
      simp only [Scan.endStates, Scan.lineStates, Scan.cons, Step.lexeme, List.flatMap_cons,
        List.append_assoc, List.mem_append] at member
      rcases member with inLexeme | behind
      · exact reports.lineStates reported inLexeme
      · apply ih reports.state
        simpa only [Scan.endStates, Scan.lineStates, List.mem_append] using behind

theorem endStates_resume
    (steps : forall mode head tail, (scanner.next mode head tail).Reports allowed)
    (normal : allowed .normal) (category : Category) {construct : State}
    (inside : allowed construct) (mode : Mode) (body : Body) :
    forall reported, reported ∈ (scanner.resume category construct mode body).endStates ->
      allowed reported := by
  have behind := endStates_run steps (body.allowed_state normal inside) mode body.cut.rest
  intro reported member
  rw [resume] at member
  split at member
  · exact behind reported member
  · simp only [Scan.endStates, Scan.lineStates, Scan.cons, Body.lexeme, List.flatMap_cons,
      List.append_assoc, List.mem_append] at member
    rcases member with inBody | inRest
    · rw [Body.eq_of_mem_lineStates inBody]
      exact inside
    · apply behind
      simpa only [Scan.endStates, Scan.lineStates, List.mem_append] using inRest

end Scanner

end Lexis
