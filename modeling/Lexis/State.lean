namespace Lexis

/-!
What a scan is in the middle of.

A scan that stops inside a construct reports it, and the next scan goes on
from there, so a text can be scanned in pieces.
-/

/--
The construct that is open at some place of a text.

A multiline string with a double or single quote was opened by three of them
and needs three to close; one with a backtick closes at a single backtick.  A
string that is not multiline stays open only behind an escaped line break.
-/
inductive State where
  | normal
  | inString (quote : Char) (multiline : Bool)
  | inComment (multiline markup : Bool)
  deriving DecidableEq, Repr

namespace State

/-- An open comment of the slash and star kind. -/
def blockComment : State := inComment true false

/-- An open comment of a markup language. -/
def markupComment : State := inComment true true

/-- An open block of fenced code. -/
def fence : State := inString '`' true

def isNormal (state : State) : Bool :=
  state == normal

end State
end Lexis
