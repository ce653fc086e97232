import Lexis.Toml.Statement

namespace Lexis
namespace Toml

/-!
Writing strings and keys.

A string is written in the plainest form that can hold it: between double
quotes if it needs no escapes, else literally, else between tripled quotes, and
with escapes only where no form is without them.
-/

/-- A control character other than the tab and the line feed, which only an escape can hold. -/
def needsEscape (character : Char) : Bool :=
  character != '\t' && character != '\n' && (character < ' ' || character == '\x7f')

/-- The longest run of a character. -/
def longestRun (wanted : Char) : Nat -> Text -> Nat
  | current, [] => current
  | current, head :: tail =>
      if head = wanted then longestRun wanted (current + 1) tail
      else max current (longestRun wanted 0 tail)

/-- The ways to quote a text. -/
inductive Form where
  | basic
  | literal
  | longBasic
  | longLiteral
  deriving DecidableEq, Repr

/-- The plainest form for a text. -/
def formOf (text : Text) : Form :=
  let controls := text.any needsEscape
  let breaks := text.contains '\n'
  let doubled := longestRun '"' 0 text
  let single := longestRun '\'' 0 text
  let escapes := controls || text.contains '\\'
  if !escapes && doubled = 0 && !breaks then .basic
  else if !controls && single = 0 && !breaks then .literal
  else if !escapes && doubled ≤ 2 then .longBasic
  else if !controls && single ≤ 2 then .longLiteral
  else if breaks then .longBasic
  else .basic

def hexDigit (value : Nat) : Char :=
  if value < 10 then Char.ofNat ('0'.toNat + value) else Char.ofNat ('A'.toNat + (value - 10))

/-- A character inside double quotes, as itself or as an escape. -/
def escapeCharacter (character : Char) : Text :=
  match character with
  | '\x08' => ['\\', 'b']
  | '\t' => ['\\', 't']
  | '\n' => ['\\', 'n']
  | '\x0c' => ['\\', 'f']
  | '\r' => ['\\', 'r']
  | '"' => ['\\', '"']
  | '\\' => ['\\', '\\']
  | _ =>
      if needsEscape character then
        ['\\', 'u', '0', '0', hexDigit (character.toNat / 16), hexDigit (character.toNat % 16)]
      else [character]

/-- The body of a string that is quoted once. -/
def basicBody (text : Text) : Text :=
  text.flatMap escapeCharacter

/-- The body of a string between tripled double quotes; `quotes` of them were written last. -/
def longBody (quotes : Nat) : Text -> Text
  | [] => []
  | head :: tail =>
      if head = '"' && quotes < 2 then '"' :: longBody (quotes + 1) tail
      else if head = '\n' then '\n' :: longBody 0 tail
      else escapeCharacter head ++ longBody 0 tail

/-- A line break behind tripled quotes, which the reader skips, if the text has others. -/
def firstBreak (text : Text) : Text :=
  if text.contains '\n' then ['\n'] else []

def Form.quote (form : Form) (text : Text) : Text :=
  match form with
  | basic => '"' :: basicBody text ++ ['"']
  | literal => '\'' :: text ++ ['\'']
  | longBasic => ['"', '"', '"'] ++ firstBreak text ++ longBody 0 text ++ ['"', '"', '"']
  | longLiteral => ['\'', '\'', '\''] ++ firstBreak text ++ text ++ ['\'', '\'', '\'']

/-- A text as a string value. -/
def writeString (text : Text) : Text :=
  (formOf text).quote text

/-- A text as a key: bare if it can be, otherwise quoted once. -/
def writeKey (text : Text) : Text :=
  if !text.isEmpty && text.all isBare then text
  else
    let controls := text.any fun character => needsEscape character || character == '\n'
    if !controls && !text.contains '\\' && !text.contains '"' then Form.basic.quote text
    else if !controls && !text.contains '\'' then Form.literal.quote text
    else Form.basic.quote text

end Toml
end Lexis
