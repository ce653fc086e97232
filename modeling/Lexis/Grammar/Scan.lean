import Lexis.Grammar.Numeral
import Lexis.Grammar.Opening
import Lexis.Scanner
import Lexis.Unicode.Uppercase

namespace Lexis
namespace Grammar

/-!
Scanning by a grammar.

The scanner's mode tells whether the text stands inside a tag, between its name
and its closer; every line break leaves the tag.  The main definition is
`Grammar.scan`, which also takes up a string or comment that an earlier text
left open.
-/

/-- The words of a text that begins a call: a parenthesis follows, with only spaces before it. -/
def callFollows (text : Text) : Bool :=
  (text.dropWhile (· == ' ')).head? == some '('

/-- The category of a word outside tags, given the text behind it. -/
def wordCategory (grammar : Grammar) (word rest : Text) : Category :=
  match grammar.keywords.classify word.toWord with
  | some category => category
  | none =>
      if word.head?.any Unicode.isUppercase then .type
      else if callFollows rest then .function
      else .variableName

/-- The category of a character that is a lexeme for itself. -/
def singleCategory (character : Char) : Category :=
  if ['(', ')', '[', ']', '{', '}'].contains character then .delimiter
  else if [',', '.', ';', ':'].contains character then .punctuation
  else .plain

/-- A lexeme that does not break the line and leaves nothing open. -/
def within (category : Category) (inTag : Bool) (cut : Cut) : Step Bool :=
  { category := category, cut := cut, mode := inTag }

/-- A lexeme with a body; line feeds in the body leave a tag. -/
def withBody (category : Category) (construct : State) (inTag : Bool) (opener : Text)
    (body : Body) : Step Bool :=
  Step.ofBody category construct (inTag && body.lineFeeds == 0) opener body

/-- What follows the angle bracket of a tag: an optional mark and the name. -/
def tagName : Text -> Cut
  | [] => Cut.stop []
  | head :: tail =>
      if isTagMark head then (Cut.run isTagNamePart tail).push head
      else Cut.run isTagNamePart (head :: tail)

/-- The body of a comment whose opener has so many characters behind its first. -/
def commentStep (construct : State) (closer : Text) (inTag : Bool) (behind : Nat)
    (tail : Text) : Step Bool :=
  withBody .comment construct inTag (tail.take behind) (Body.ofComment closer (tail.drop behind))

def stringStep (grammar : Grammar) (inTag : Bool) (quote : Char) (tripled : Bool)
    (tail : Text) : Step Bool :=
  let multiline := tripled || quote == '`' && grammar.features.multilineStrings
  let behind := if tripled then 2 else 0
  withBody .string (.inString quote multiline) inTag (tail.take behind)
    (Body.ofString quote multiline (tail.drop behind))

/-- A word, which is an attribute inside a tag. -/
def wordStep (grammar : Grammar) (inTag : Bool) (head : Char) (tail : Text) : Step Bool :=
  let cut := Cut.run isWordPart tail
  let category :=
    if inTag then .tagAttribute else grammar.wordCategory (head :: cut.taken) cut.rest
  within category inTag cut

/-- The closers of comments. -/
def blockCloser : Text := ['*', '/']

def markupCloser : Text := ['-', '-', '>']

/-- The lexeme that a nonempty text begins with, once its kind is known. -/
def stepOf (grammar : Grammar) (inTag : Bool) (head : Char) (tail : Text) :
    Opening -> Step Bool
  | .blank => within .whitespace inTag (Cut.run isBlank tail)
  | .lineBreak => Step.lineBreak false head tail
  | .lineComment documentation =>
      within (if documentation then .docComment else .comment) inTag (Cut.toLineEnd tail)
  | .blockComment => commentStep .blockComment blockCloser inTag 1 tail
  | .markupComment => commentStep .markupComment markupCloser inTag 3 tail
  | .tagStart => within .tag true (tagName tail)
  | .tagEnd closer => within .tag false (Cut.count (closer.length - 1) tail)
  | .string quote tripled => grammar.stringStep inTag quote tripled tail
  | .number => within .number inTag (Numeral.cut grammar.features.octalNumbers head tail)
  | .attributeName => within .attributeName inTag (Cut.run isWordPart tail)
  | .directive => within .preprocessor inTag (Cut.run isWordPart tail)
  | .word => grammar.wordStep inTag head tail
  | .operator => within .operator inTag (Cut.run grammar.isOperator tail)
  | .single => within (singleCategory head) inTag (Cut.stop tail)

def next (grammar : Grammar) (inTag : Bool) (head : Char) (tail : Text) : Step Bool :=
  grammar.stepOf inTag head tail (grammar.opening inTag head tail)

theorem whole_withBody (category : Category) (construct : State) (inTag : Bool) (opener : Text)
    (body : Body) :
    (withBody category construct inTag opener body).cut.whole = opener ++ body.cut.whole := by
  simp [withBody, Step.ofBody]

theorem whole_tagName (text : Text) : (tagName text).whole = text := by
  cases text with
  | nil => rfl
  | cons head tail =>
      simp only [tagName]
      split <;> simp

theorem whole_stepOf (grammar : Grammar) (inTag : Bool) (head : Char) (tail : Text)
    (kind : Opening) : (grammar.stepOf inTag head tail kind).cut.whole = tail := by
  cases kind with
  | lineBreak => exact Step.whole_lineBreak false head tail
  | tagStart => exact whole_tagName tail
  | blockComment | markupComment =>
      simp only [stepOf, commentStep, whole_withBody, Body.whole_ofComment,
        List.take_append_drop]
  | string quote tripled =>
      simp only [stepOf, stringStep, whole_withBody, Body.whole_ofString,
        List.take_append_drop]
  | _ => simp [stepOf, within, wordStep]

/-- The scanner of a grammar's language, outside strings and comments. -/
def scanner (grammar : Grammar) : Scanner Bool where
  next := grammar.next
  whole_cut inTag head tail := grammar.whole_stepOf inTag head tail _

/-- Scans a text that an earlier one left in the given state. -/
def scan (grammar : Grammar) (state : State) (text : Text) : Scan :=
  match state with
  | .normal => grammar.scanner.run .normal false text
  | .inString quote multiline =>
      grammar.scanner.resume .string state false (Body.ofString quote multiline text)
  | .inComment _ markup =>
      grammar.scanner.resume .comment (.inComment true markup) false
        (Body.ofComment (if markup then markupCloser else blockCloser) text)

end Grammar
end Lexis
