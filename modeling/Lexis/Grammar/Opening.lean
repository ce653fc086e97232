import Lexis.Body
import Lexis.Grammar.Basic

namespace Lexis

/-!
What the start of a lexeme announces.

At each place between two constructs the characters that follow decide, in a
fixed order of priority, what kind of lexeme begins there: blanks and line
breaks, comments, tags, strings, numbers, attributes, directives, words,
operators, and last any other character for itself.
-/

/-- The kinds of lexeme, as they are recognised by their first characters. -/
inductive Opening where
  | blank
  | lineBreak
  | lineComment (documentation : Bool)
  | blockComment
  | markupComment
  | tagStart
  | tagEnd (closer : Text)
  | string (quote : Char) (tripled : Bool)
  | number
  | attributeName
  | directive
  | word
  | operator
  | single
  deriving DecidableEq, Repr

/-- The mark that closes a tag, after at most one other mark. -/
def tagClosers : List Text := [['>'], ['/', '>'], ['?', '>']]

/-- A mark that may stand between the angle bracket of a tag and its name. -/
def isTagMark (character : Char) : Bool :=
  character == '/' || character == '!' || character == '?'

/-- A character that the name of a tag is made of. -/
def isTagNamePart (character : Char) : Bool :=
  isLetterOrNumeral character || character == '-' || character == '_' || character == ':' ||
    character == '.'

/-- The text behind an angle bracket makes it the start of a tag. -/
def namesTag : Text -> Bool
  | [] => false
  | head :: tail => isLetter head || isTagMark head && tail.head?.any isLetter

/-- The directives that are not comments where a number sign begins comments. -/
def directives : List Text :=
  [['#', 'i', 'f'], ['#', 'e', 'l', 's', 'e'], ['#', 'e', 'n', 'd', 'i', 'f'],
    ['#', 'i', 'n', 'c', 'l', 'u', 'd', 'e']]

/-- A line comment is documentation with three slashes, but not four, or with an exclamation mark. -/
def isDocComment (text : Text) : Bool :=
  Text.opensWith ['/', '/', '/'] text && !Text.opensWith ['/', '/', '/', '/'] text ||
    Text.opensWith ['/', '/', '!'] text

namespace Features

def isQuote (features : Features) (character : Char) : Bool :=
  character == '"' || character == '\'' && features.singleQuoteStrings ||
    character == '`' && features.backtickStrings

/-- The string that begins with the quote is quoted three times. -/
def opensTripled (features : Features) (quote : Char) (text : Text) : Bool :=
  features.multilineStrings && quote != '`' && Text.opensWith (Body.tripled quote) text

end Features

namespace Grammar

/-- The text begins with a directive that the grammar tells from a comment. -/
def atDirective (grammar : Grammar) (text : Text) : Bool :=
  grammar.features.preprocessor && directives.any fun directive => Text.opensWith directive text

/-- The closer that the text begins with, inside a tag. -/
def tagCloser? (grammar : Grammar) (inTag : Bool) (text : Text) : Option Text :=
  if grammar.features.tags && inTag then
    tagClosers.find? fun closer => Text.opensWith closer text
  else none

/-- The kind of lexeme that a nonempty text begins with. -/
def opening (grammar : Grammar) (inTag : Bool) (head : Char) (tail : Text) : Opening :=
  let text := head :: tail
  let features := grammar.features
  if isBlank head then .blank
  else if isLineBreak head then .lineBreak
  else if Text.opensWith ['/', '/'] text then
    .lineComment (features.docComments && isDocComment text)
  else if Text.opensWith ['/', '*'] text then .blockComment
  else if features.hashComments && head == '#' && !grammar.atDirective text then
    .lineComment false
  else if features.markupComments && Text.opensWith ['<', '!', '-', '-'] text then
    .markupComment
  else if features.tags && head == '<' && namesTag tail then .tagStart
  else match grammar.tagCloser? inTag text with
  | some closer => .tagEnd closer
  | none =>
      if features.isQuote head then .string head (features.opensTripled head text)
      else if isDigit head || head == '.' && tail.head?.any isDigit then .number
      else if features.attributes && head == '@' then .attributeName
      else if features.preprocessor && head == '#' then .directive
      else if isWordStart head then .word
      else if grammar.isOperator head then .operator
      else .single

end Grammar
end Lexis
