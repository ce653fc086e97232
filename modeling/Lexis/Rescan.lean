import Lexis.Highlighter
import Lexis.LineStates
import Lexis.Text.Lines

namespace Lexis

/-!
Rescanning the lines that an edit can have changed.

A rescan begins at the first edited line, in the state that the line before it
was left in, and goes on line by line.  Behind the edited lines it stops as
soon as a line ends in the state that the same line ended in before the edit:
from there on neither the text nor the state has changed.  The pieces of a
construct that spans several lines are joined again.
-/

/-- What a rescan found. -/
structure Rescan where
  /-- The rescanned lines of the new text. -/
  lines : Span
  /-- Their bytes. -/
  span : Span
  tokens : List Token
  /-- What is open at the end of each of them. -/
  states : List State
  /-- The number of lines of the new text less that of the old one. -/
  lineDelta : Int
  deriving DecidableEq, Repr

namespace Rescan

/-- The lines of the old text that the rescanned ones replace. -/
def oldLines (result : Rescan) : Span :=
  { start := result.lines.start, stop := moveOffset result.lines.stop (-result.lineDelta) }

/-- Where the replaced lines ended in the old text, which was shorter by `delta` bytes. -/
def oldStop (result : Rescan) (delta : Int) : Nat :=
  moveOffset result.span.stop (-delta)

end Rescan

/--
Whether a line of the new text is behind the edited ones and ends in the state
that the same line of the old text ended in.
-/
def LineStates.settled? (cached : LineStates) (editedLast : Nat) (lineDelta : Int) (line : Nat)
    (state : State) : Option Bool :=
  if line < editedLast then some false
  else
    (moveOffset? line (-lineDelta)).map fun oldLine => cached.endState? oldLine == some state

namespace Highlighter

/--
Scans line after line from an offset and a state on, until the lines end or
`settled?` accepts a line's number and end state.  It may also have no answer,
and then there are no tokens.
-/
def scanLines (highlighter : Highlighter) (settled? : Nat -> State -> Option Bool) :
    Nat -> Nat -> State -> List Text -> Option (List Token × List State)
  | _, _, _, [] => some ([], [])
  | line, offset, state, text :: texts =>
      let scan := highlighter.scan state text
      let tokens := scan.tokens offset
      if texts.isEmpty then some (tokens, [scan.endState])
      else do
        if ← settled? line scan.endState then
          some (tokens, [scan.endState])
        else
          let (later, states) ←
            scanLines highlighter settled? (line + 1) (offset + text.size) scan.endState texts
          some (Token.join (!scan.endState.isNormal) tokens later, scan.endState :: states)

/--
Rescans the lines of the new text that an edit touched; `edited` is where the
inserted text lies.  There is no answer if the cached states cannot be those
of the old text.
-/
def rescan (highlighter : Highlighter) (text : Text) (cached : LineStates) (edited : Span) :
    Option Rescan :=
  if cached.isEmpty || edited.stop < edited.start || text.size < edited.stop then none
  else do
    let lineDelta : Int := ((text.lineFeeds + 1 : Nat) : Int) - cached.count
    let first := text.lineOf edited.start
    let editedLast := text.lineOf edited.stop
    -- The replaced text was on the old lines from the first one to this one.
    let oldEditedLast ← moveOffset? editedLast (-lineDelta)
    if oldEditedLast < first || cached.count ≤ oldEditedLast then none
    else
      let entry ← cached.entryState? first
      let start := text.lineStart first
      let (tokens, states) ←
        highlighter.scanLines (cached.settled? editedLast lineDelta) first start entry
          (text.lines.drop first)
      let stop := first + states.length
      some
        { lines := { start := first, stop := stop }
          span := { start := start, stop := text.lineStart stop }
          tokens := tokens
          states := states
          lineDelta := lineDelta }

end Highlighter
end Lexis
