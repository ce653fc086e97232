import Lexis.Markdown.Block
import Lexis.Markdown.Inline

namespace Lexis
namespace Markdown

/-!
Scanning Markdown.

The scanner's mode tells whether only blanks stand before the text on its line,
so that block marks count.  Fenced code is the only construct that a text can
leave open; `Markdown.scan` takes any other state for no construct at all.
-/

def next (atStart : Bool) (head : Char) (tail : Text) : Step Bool :=
  if isBlank head then
    { category := .whitespace, cut := Cut.run isBlank tail, mode := atStart }
  else if isLineBreak head then Step.lineBreak true head tail
  else match if atStart then blockMark? head tail else none with
  | some (category, cut) => { category := category, cut := cut, mode := false }
  | none => inline head tail

theorem whole_next (atStart : Bool) (head : Char) (tail : Text) :
    (next atStart head tail).cut.whole = tail := by
  simp only [next]
  split
  · simp
  split
  · exact Step.whole_lineBreak true head tail
  split
  · next category cut found =>
      cases atStart with
      | false => exact absurd found (by simp)
      | true => exact whole_of_blockMark? found
  · exact whole_inline head tail

def scanner : Scanner Bool where
  next := next
  whole_cut := whole_next

/-- Scans a text that an earlier one left in the given state. -/
def scan (state : State) (text : Text) : Scan :=
  if state = .fence then
    let body :=
      if Text.opensWith fenceMark text then Body.finished fenceMark (text.drop 3)
      else fenceBody text
    scanner.resume .string .fence false body
  else scanner.run .normal true text

end Markdown
end Lexis
