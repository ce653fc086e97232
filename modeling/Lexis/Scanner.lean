import Lexis.Body

namespace Lexis

/-!
Scanners: rules that cut a text into lexemes.

A scanner says how the first lexeme of a nonempty text goes on behind its first
character, given a mode that the scanner keeps for itself along the text.  A
lexeme therefore always takes something.  The scanner's law says that cutting
loses nothing; from it `Scanner.run` terminates, and its lexemes put together
are the text (`Scanner.covers_run`).
-/

variable {Mode : Type}

/-- A lexeme cut off from a text, and how the scan goes on behind it. -/
structure Step (Mode : Type) where
  category : Category
  /-- What the lexeme takes behind its first character, and what it leaves. -/
  cut : Cut
  lineStates : List State := []
  /-- The construct that the lexeme leaves open at the end of the text. -/
  state : State := .normal
  mode : Mode

namespace Step

def lexeme (head : Char) (step : Step Mode) : Lexeme :=
  { category := step.category
    text := head :: step.cut.taken
    lineStates := step.lineStates }

/-- A lexeme that consists of an opener, of which `opener` stands behind the head, and a body. -/
def ofBody (category : Category) (construct : State) (mode : Mode) (opener : Text)
    (body : Body) : Step Mode :=
  { category := category
    cut := body.cut.pushAll opener
    lineStates := body.lineStates construct
    state := body.state construct
    mode := mode }

/--
The line break that a carriage return or line feed begins.  A carriage return
takes the line feed behind it along; alone it ends no line.
-/
def lineBreak (mode : Mode) (head : Char) (tail : Text) : Step Mode :=
  let cut := if head == '\r' && tail.head? == some '\n' then Cut.count 1 tail else Cut.stop tail
  { category := .newline
    cut := cut
    lineStates := if head == '\n' || !cut.taken.isEmpty then [.normal] else []
    mode := mode }

theorem whole_lineBreak (mode : Mode) (head : Char) (tail : Text) :
    (lineBreak mode head tail).cut.whole = tail := by
  simp only [lineBreak]
  split <;> simp

end Step

structure Scanner (Mode : Type) where
  next : Mode -> Char -> Text -> Step Mode
  whole_cut : (mode : Mode) -> (head : Char) -> (tail : Text) ->
    (next mode head tail).cut.whole = tail

namespace Scanner

theorem length_rest_lt (scanner : Scanner Mode) (mode : Mode) (head : Char) (tail : Text) :
    (scanner.next mode head tail).cut.rest.length < (head :: tail).length := by
  have whole := congrArg List.length (scanner.whole_cut mode head tail)
  simp only [Cut.whole, List.length_append] at whole
  simp only [List.length_cons]
  omega

/-- Cuts off lexeme after lexeme; `state` is what the text before this one left open. -/
def run (scanner : Scanner Mode) (state : State) (mode : Mode) : Text -> Scan
  | [] => { lexemes := [], endState := state }
  | head :: tail =>
      let step := scanner.next mode head tail
      (run scanner step.state step.mode step.cut.rest).cons (step.lexeme head)
termination_by text => text.length
decreasing_by exact scanner.length_rest_lt mode head tail

theorem run_nil (scanner : Scanner Mode) (state : State) (mode : Mode) :
    scanner.run state mode [] = { lexemes := [], endState := state } := by
  rw [run]

theorem run_cons (scanner : Scanner Mode) (state : State) (mode : Mode)
    (head : Char) (tail : Text) :
    scanner.run state mode (head :: tail) =
      let step := scanner.next mode head tail
      (scanner.run step.state step.mode step.cut.rest).cons (step.lexeme head) := by
  rw [run]

/--
Scans a text that begins inside a construct: first the rest of its body, as a
lexeme of its own unless nothing of it is left, then the text behind it.
-/
def resume (scanner : Scanner Mode) (category : Category) (construct : State) (mode : Mode)
    (body : Body) : Scan :=
  let scan := scanner.run (body.state construct) mode body.cut.rest
  if body.cut.taken.isEmpty then scan else scan.cons (body.lexeme category construct)

end Scanner
end Lexis
