import Lexis.Scan

namespace Lexis

/-!
The open construct at the end of every line.

A document keeps one state per line, so that a scan can be taken up at the
start of any line.  The list may also be empty, before anything was scanned, or
out of step with the text it is used for.
-/

structure LineStates where
  states : List State
  deriving DecidableEq, Repr

namespace LineStates

/-- The states of a scanned text, one for each of its lines. -/
def ofScan (scan : Scan) : LineStates :=
  { states := scan.endStates }

/-- The number of lines. -/
def count (cached : LineStates) : Nat :=
  cached.states.length

def isEmpty (cached : LineStates) : Bool :=
  cached.states.isEmpty

/-- What is open at the end of a line. -/
def endState? (cached : LineStates) (line : Nat) : Option State :=
  cached.states[line]?

/-- What is open at the start of a line: nothing on the first, else what the line before leaves. -/
def entryState? (cached : LineStates) : Nat -> Option State
  | 0 => if cached.isEmpty then none else some .normal
  | line + 1 => cached.endState? line

/-- Puts states in the place of those of a range of lines. -/
def splice (cached : LineStates) (lines : Span) (states : List State) : LineStates :=
  { states := cached.states.take lines.start ++ states ++ cached.states.drop lines.stop }

end LineStates
end Lexis
