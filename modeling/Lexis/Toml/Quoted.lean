import Lexis.Text.Classes

namespace Lexis
namespace Toml

/-!
Reading the four kinds of quoted text.

A basic string has escapes and a literal one has none; either may be quoted
once, on one line, or three times, over several lines.  Each reader takes the
text behind the opening quotes, and returns what it stands for and the text
behind the closing ones.
-/

/-- What a reader found and the text it left. -/
abbrev Reading (Found : Type) := Option (Found × Text)

namespace Reading

variable {Found : Type}

/-- One more character in front of what was read. -/
def push (head : Char) (reading : Reading Text) : Reading Text :=
  reading.map fun found => (head :: found.1, found.2)

end Reading

/-- A character that may stand for itself in a comment or string. -/
def isPrintable (character : Char) : Bool :=
  character == '\t' || (' ' ≤ character && character != '\x7f')

def isBlankMark (character : Char) : Bool :=
  character == ' ' || character == '\t'

/-- The end of a string that is quoted three times: one or two more quotes belong to it. -/
def closing (quote : Char) (rest : Text) : Reading Text :=
  match rest with
  | first :: second :: more =>
      if first = quote && second = quote then some ([quote, quote], more)
      else if first = quote then some ([quote], second :: more)
      else some ([], rest)
  | [first] => if first = quote then some ([quote], []) else some ([], rest)
  | [] => some ([], [])

/-- Two more quotes follow. -/
def closes (quote : Char) (tail : Text) : Bool :=
  Text.opensWith [quote, quote] tail

/-- The rest of a literal string. -/
def literal (multiline : Bool) : Text -> Reading Text
  | [] => none
  | head :: tail =>
      if head = '\'' then
        if !multiline then some ([], tail)
        else if closes '\'' tail then closing '\'' (tail.drop 2)
        else (literal multiline tail).push head
      else if multiline && head = '\n' then (literal multiline tail).push head
      else if multiline && head = '\r' && tail.head? = some '\n' then literal multiline tail
      else if isPrintable head then (literal multiline tail).push head
      else none

/-- Where the reader of a basic string is. -/
inductive Place where
  | plain
  /-- Behind a backslash. -/
  | escape
  /-- Inside the code of a character: how many digits are missing, and the value so far. -/
  | code (missing value : Nat)
  /-- Behind a backslash and blanks; the line must end there. -/
  | lineEnd
  /-- Behind an escaped line end, where blanks and line breaks mean nothing. -/
  | skipping
  deriving DecidableEq, Repr

/-- The character that an escape of one letter stands for. -/
def escaped? : Char -> Option Char
  | 'b' => some '\x08'
  | 't' => some '\t'
  | 'n' => some '\n'
  | 'f' => some '\x0c'
  | 'r' => some '\r'
  | 'e' => some '\x1b'
  | '"' => some '"'
  | '\\' => some '\\'
  | _ => none

/-- How many digits an escape by code has. -/
def codeLength? : Char -> Option Nat
  | 'x' => some 2
  | 'u' => some 4
  | 'U' => some 8
  | _ => none

/-- The character of a code, unless the code is a surrogate or too large. -/
def ofCode? (code : Nat) : Option Char :=
  if code.isValidChar then some (Char.ofNat code) else none

/-- The rest of a basic string. -/
def basic (multiline : Bool) : Place -> Text -> Reading Text
  | _, [] => none
  | .escape, head :: tail =>
      match escaped? head, codeLength? head with
      | some character, _ => (basic multiline .plain tail).push character
      | none, some length => basic multiline (.code length 0) tail
      | none, none =>
          if !multiline then none
          else if head = '\n' then basic multiline .skipping tail
          else if isBlankMark head || head = '\r' && tail.head? = some '\n' then
            basic multiline .lineEnd tail
          else none
  | .code missing value, head :: tail =>
      match digitValue? head with
      | none => none
      | some digit =>
          let value := 16 * value + digit
          if missing ≤ 1 then
            match ofCode? value with
            | some character => (basic multiline .plain tail).push character
            | none => none
          else basic multiline (.code (missing - 1) value) tail
  | .lineEnd, head :: tail =>
      if head = '\n' then basic multiline .skipping tail
      else if isBlankMark head || head = '\r' && tail.head? = some '\n' then
        basic multiline .lineEnd tail
      else none
  | place, head :: tail =>
      if place = .skipping && (isBlankMark head || head = '\n') then
        basic multiline .skipping tail
      else if multiline && head = '\r' && tail.head? = some '\n' then
        basic multiline place tail
      else if head = '"' then
        if !multiline then some ([], tail)
        else if closes '"' tail then closing '"' (tail.drop 2)
        else (basic multiline .plain tail).push head
      else if head = '\\' then basic multiline .escape tail
      else if multiline && head = '\n' || isPrintable head then
        (basic multiline .plain tail).push head
      else none

/-- The text behind a line break that stands directly behind three opening quotes. -/
def skipFirstBreak : Text -> Text
  | '\n' :: tail => tail
  | '\r' :: '\n' :: tail => tail
  | text => text

/-- A quoted text with its opening quotes, of any of the four kinds. -/
def quoted? : Text -> Option (Reading Text)
  | '"' :: '"' :: '"' :: tail => some (basic true .plain (skipFirstBreak tail))
  | '"' :: tail => some (basic false .plain tail)
  | '\'' :: '\'' :: '\'' :: tail => some (literal true (skipFirstBreak tail))
  | '\'' :: tail => some (literal false tail)
  | _ => none

end Toml
end Lexis
