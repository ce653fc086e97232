import Lexis.Span
import Lexis.Text.Basic

namespace Lexis

/-!
Edits of a text, and what their effect on a document is reported as.
-/

/-- Puts a text in the place of a span. -/
structure Edit where
  span : Span
  text : Text
  deriving DecidableEq, Repr

/-- Why an edit is refused. -/
inductive EditError where
  | outOfBounds (span : Span) (size : Nat)
  | notBoundary (offset : Nat)
  deriving DecidableEq, Repr

def EditError.message : EditError -> String
  | outOfBounds span size =>
      s!"edit range {span.display} is outside the document (length {size})"
  | notBoundary offset => s!"edit offset {offset} is not on a character boundary"

/-- What an edit or a change of language did to a document. -/
structure Patch where
  /-- The inserted text in the new document. -/
  edited : Span
  /-- The lines whose tokens were found anew; all others only moved. -/
  rescannedLines : Span
  /-- The bytes of those lines. -/
  rescanned : Span
  /-- The number of lines of the new text less that of the old one. -/
  lineDelta : Int
  /-- The whole document was scanned anew. -/
  fullRescan : Bool
  version : Nat
  deriving DecidableEq, Repr

namespace Edit

def insert (offset : Nat) (text : Text) : Edit :=
  { span := { start := offset, stop := offset }, text := text }

def delete (span : Span) : Edit :=
  { span := span, text := [] }

/-- What keeps the edit from being applied to a text. -/
def error? (edit : Edit) (text : Text) : Option EditError :=
  let span := edit.span
  if span.stop < span.start || text.size < span.stop then
    some (.outOfBounds span text.size)
  else if ¬ text.IsBoundary span.start then some (.notBoundary span.start)
  else if ¬ text.IsBoundary span.stop then some (.notBoundary span.stop)
  else none

/-- The edited text. -/
def applyTo (edit : Edit) (text : Text) : Text :=
  text.before edit.span.start ++ edit.text ++ text.after edit.span.stop

/-- The inserted text's place in the edited text. -/
def inserted (edit : Edit) : Span :=
  { start := edit.span.start, stop := edit.span.start + edit.text.size }

/-- By how many bytes the edit lengthens the text. -/
def delta (edit : Edit) : Int :=
  (edit.text.size : Int) - edit.span.length

end Edit
end Lexis
