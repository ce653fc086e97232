import Lexis.State
import Lexis.Token

namespace Lexis

/-!
Scans: what a scanner finds in a text.

A scan is a sequence of lexemes.  A lexeme carries its own characters and not
its place, so a scan does not depend on where its text lies in a document;
`Scan.tokens` places the lexemes one after the other from a given offset.
-/

/--
A categorised piece of text.

`lineStates` has one entry for each line that ends inside the lexeme: the
construct that is open where the next line begins.
-/
structure Lexeme where
  category : Category
  text : Text
  lineStates : List State := []
  deriving DecidableEq, Repr

/-- The tokens of lexemes that lie one after the other from an offset on. -/
def Lexeme.place : Nat -> List Lexeme -> List Token
  | _, [] => []
  | start, lexeme :: lexemes =>
      let stop := start + lexeme.text.size
      { category := lexeme.category, start := start, stop := stop } :: place stop lexemes

/-- The lexemes of a text and the construct that is open at its end. -/
structure Scan where
  lexemes : List Lexeme
  endState : State
  deriving DecidableEq, Repr

namespace Scan

def cons (lexeme : Lexeme) (scan : Scan) : Scan :=
  { scan with lexemes := lexeme :: scan.lexemes }

/-- The tokens of a text that lies at an offset of its document. -/
def tokens (scan : Scan) (base : Nat) : List Token :=
  Lexeme.place base scan.lexemes

/-- The open construct after each line feed of the text. -/
def lineStates (scan : Scan) : List State :=
  scan.lexemes.flatMap (·.lineStates)

/-- The open construct at the end of each line of the text, the last one included. -/
def endStates (scan : Scan) : List State :=
  scan.lineStates ++ [scan.endState]

end Scan
end Lexis
