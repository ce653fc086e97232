import Lexis.Proofs.Returns
import Lexis.Proofs.Scan.Spelled
import Lexis.Proofs.Scanner.Lexemes
import Lexis.Proofs.Scanner.LineLocal

namespace Lexis

/-!
Scans of texts whose lines end with a carriage return and a line feed.

If every lexeme that begins with another character than a line break is the same
on such a text, then so is the whole scan: a line break there consists of both
characters, and ends a line as the line feed alone does.
-/

/-- The lexeme as it is found among the same lines with carriage returns. -/
def Lexeme.withReturns (lexeme : Lexeme) : Lexeme :=
  { lexeme with text := lexeme.text.withReturns }

/-- The scan of the same lines with carriage returns, if they make no difference. -/
def Scan.withReturns (scan : Scan) : Scan :=
  { scan with lexemes := scan.lexemes.map Lexeme.withReturns }

variable {Mode : Type}

def Step.withReturns (step : Step Mode) : Step Mode :=
  { step with cut := step.cut.withReturns }

theorem Step.lexeme_withReturns {head : Char} (other : head ≠ '\n') (step : Step Mode) :
    step.withReturns.lexeme head = (step.lexeme head).withReturns := by
  simp only [Step.lexeme, Lexeme.withReturns, Step.withReturns, Cut.withReturns,
    Text.withReturns_cons _ other]

theorem Step.ofBody_withReturns (category : Category) (construct : State) (mode : Mode)
    {opener : Text} (noFeed : '\n' ∉ opener) (body : Body) :
    Step.ofBody category construct mode opener body.withReturns =
      (Step.ofBody category construct mode opener body).withReturns := by
  simp only [ofBody, withReturns, Body.withReturns, Cut.withReturns_pushAll noFeed]
  rfl

theorem Scan.lineStates_withReturns (scan : Scan) :
    scan.withReturns.lineStates = scan.lineStates := by
  rw [lineStates, withReturns, List.flatMap_map]
  rfl

/-- If carriage returns make no difference, the tokens have the same categories and texts. -/
theorem Scan.Covers.spelled_withReturns {scan : Scan} {text : Text} (covers : scan.Covers text)
    (returned : scan.withReturns.Covers text.withReturns) :
    (scan.withReturns.tokens 0).map (Token.spelled text.withReturns) =
      (scan.tokens 0).map fun token => (token.category, (token.text text).withReturns) := by
  calc
    (scan.withReturns.tokens 0).map (Token.spelled text.withReturns) =
        scan.withReturns.lexemes.map Lexeme.spelled := returned.spelled
    _ = (scan.lexemes.map Lexeme.spelled).map (Prod.map id Text.withReturns) := by
      rw [Scan.withReturns, List.map_map, List.map_map]
      rfl
    _ = ((scan.tokens 0).map (Token.spelled text)).map (Prod.map id Text.withReturns) := by
      rw [covers.spelled]
    _ = (scan.tokens 0).map fun token => (token.category, (token.text text).withReturns) := by
      rw [List.map_map]
      rfl

/--
A run over the same lines with carriage returns is the same run, provided that
every lexeme is the same that reports only states of the kind reported here.
-/
theorem Scanner.run_withReturns {scanner : Scanner Mode} {fresh : Mode} {allowed : State -> Prop}
    (breaks : forall mode head tail, isLineBreak head = true ->
      scanner.next mode head tail = Step.lineBreak fresh head tail)
    (steps : forall mode head tail, isLineBreak head = false ->
      (forall after, after ∈ (scanner.next mode head tail).lineStates -> allowed after) ->
        scanner.next mode head (Text.withReturns tail) =
          (scanner.next mode head tail).withReturns)
    (state : State) (mode : Mode) {text : Text} (noReturn : '\r' ∉ text)
    (reported : forall after, after ∈ (scanner.run state mode text).lineStates -> allowed after) :
    scanner.run state mode text.withReturns = (scanner.run state mode text).withReturns := by
  fun_induction Scanner.run scanner state mode text with
  | case1 state mode => exact scanner.run_nil state mode
  | case2 state mode head tail step ih =>
      have parts : ((scanner.run step.state step.mode step.cut.rest).cons
          (step.lexeme head)).lineStates = step.lineStates ++
            (scanner.run step.state step.mode step.cut.rest).lineStates := List.flatMap_cons
      rw [parts] at reported
      have restReturn : '\r' ∉ step.cut.rest :=
        fun member => noReturn ((scanner.rest_isSuffix mode head tail).subset member)
      have rest := ih restReturn fun after member => reported after (List.mem_append_right _ member)
      by_cases feed : head = '\n'
      · subst feed
        have now : step = Step.lineBreak fresh '\n' tail := breaks mode '\n' tail rfl
        have later := breaks mode '\r' ('\n' :: Text.withReturns tail) rfl
        rw [now] at rest ⊢
        rw [Text.withReturns_feed, run_cons, later]
        exact congrArg (Scan.cons _) rest
      · have inLine : isLineBreak head = false := by
          have notReturn : head ≠ '\r' := fun same => noReturn (by simp [same])
          simp [isLineBreak, feed, notReturn]
        have same := steps mode head tail inLine fun after member =>
          reported after (List.mem_append_left _ member)
        rw [Text.withReturns_cons tail feed, run_cons, same]
        simp only [Step.lexeme_withReturns feed]
        exact congrArg (Scan.cons _) rest

/-- A scan that begins inside a construct differs no more than the body and the run behind it. -/
theorem Scanner.resume_withReturns {scanner : Scanner Mode} {category : Category}
    {construct : State} {mode : Mode} {body : Body}
    (behind : scanner.run (body.state construct) mode body.cut.rest.withReturns =
      (scanner.run (body.state construct) mode body.cut.rest).withReturns) :
    scanner.resume category construct mode body.withReturns =
      (scanner.resume category construct mode body).withReturns := by
  have rest : scanner.run (body.withReturns.state construct) mode body.withReturns.cut.rest =
      (scanner.run (body.state construct) mode body.cut.rest).withReturns := behind
  have empty : body.withReturns.cut.taken.isEmpty = body.cut.taken.isEmpty :=
    body.cut.taken.isEmpty_withReturns
  simp only [resume, rest, empty]
  split
  · rfl
  · rfl

end Lexis
