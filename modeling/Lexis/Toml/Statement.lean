import Lexis.Toml.Date
import Lexis.Toml.Number
import Lexis.Toml.Quoted

namespace Lexis
namespace Toml

/-!
Statements: the lines of a TOML file, blank lines and comments aside.

A statement is the header of a table, the header of an element of an array of
tables, or an assignment of a value to a key.  Values may be nested to a fixed
depth, and keys have a greatest number of parts.
-/

inductive Statement where
  | assignment (key : Key) (value : Value)
  | table (key : Key)
  | element (key : Key)

/-- How deep values may be nested. -/
def greatestDepth : Nat := 80

/-- How many parts a key may have. -/
def greatestKey : Nat := 80

def skipBlanks (text : Text) : Text :=
  text.dropWhile isBlankMark

/-- The text behind the end of a line that consists of characters of a comment. -/
def skipComment : Text -> Option Text
  | [] => some []
  | head :: tail =>
      if head = '\n' then some tail
      else if head = '\r' && tail.head? = some '\n' || isPrintable head then skipComment tail
      else none

/-- The text behind the end of a line on which nothing but blanks and a comment is left. -/
def skipLine (text : Text) : Option Text :=
  match skipBlanks text with
  | [] => some []
  | '\n' :: tail => some tail
  | '\r' :: '\n' :: tail => some tail
  | '#' :: tail => skipComment tail
  | _ => none

/-- The text behind blanks, comments and line breaks; `inComment` tells that a comment is open. -/
def skipSpace (inComment : Bool) : Text -> Option Text
  | [] => some []
  | head :: tail =>
      if head = '\n' then skipSpace false tail
      else if head = '\r' && tail.head? = some '\n' then skipSpace inComment tail
      else if inComment then if isPrintable head then skipSpace true tail else none
      else if head = '#' then skipSpace true tail
      else if isBlankMark head then skipSpace false tail
      else some (head :: tail)

/-- A character that a key or scalar without quotes is made of. -/
def isBare (character : Char) : Bool :=
  isDigit character || ('a' ≤ character && character ≤ 'z') ||
    ('A' ≤ character && character ≤ 'Z') || character == '_' || character == '-'

/-- One part of a key, quoted on one line or bare. -/
def keyPart : Text -> Reading Text
  | '"' :: tail => basic false .plain tail
  | '\'' :: tail => literal false tail
  | text =>
      let word := text.takeWhile isBare
      if word.isEmpty then none else some (word, text.dropWhile isBare)

/-- A dotted key with the blanks behind it; `front` holds its parts so far in reverse. -/
def keyFrom (front : List Text) (text : Text) : Reading Key :=
  match keyPart (skipBlanks text) with
  | none => none
  | some (part, rest) =>
      match skipBlanks rest with
      | '.' :: more =>
          if more.length < text.length then keyFrom (part :: front) more else none
      | rest => some ({ front := front.reverse, last := part }, rest)
termination_by text.length

def key (text : Text) : Reading Key :=
  (keyFrom [] text).filter fun found => found.1.front.length < greatestKey

/-- A character that numbers, dates and truth values are made of. -/
def isScalarPart (character : Char) : Bool :=
  isBare character || character == '+' || character == '.' || character == ':'

def scalar? (word : Text) : Option Value :=
  if word = ['t', 'r', 'u', 'e'] then some (.boolean true)
  else if word = ['f', 'a', 'l', 's', 'e'] then some (.boolean false)
  else match integer? word with
  | some value => some (.integer value)
  | none =>
      match moment? word with
      | some text => some (.date text)
      | none => (float? word).map Value.float

/-- The characters of a scalar; behind a date, a space and a digit begin its time. -/
def scalarWord (text : Text) : Text × Text :=
  let word := text.takeWhile isScalarPart
  match text.dropWhile isScalarPart with
  | ' ' :: rest =>
      match date? word with
      | some (_, []) =>
          if rest.head?.any isDigit then
            (word ++ ' ' :: rest.takeWhile isScalarPart, rest.dropWhile isScalarPart)
          else (word, ' ' :: rest)
      | _ => (word, ' ' :: rest)
  | rest => (word, rest)

/-- A value that holds no other values. -/
def simple (text : Text) : Reading Value :=
  match quoted? text with
  | some reading => reading.map fun found => (.string found.1, found.2)
  | none =>
      let (word, rest) := scalarWord text
      (scalar? word).map fun value => (value, rest)

/-- Items between commas, with space around them, up to the closing bracket, which is taken too. -/
def itemsUntil {Item : Type} (closer : Char) (item : Text -> Reading Item) (text : Text) :
    Reading (List Item) :=
  match skipSpace false text with
  | none => none
  | some [] => none
  | some (head :: tail) =>
      if head = closer then some ([], tail)
      else match item (head :: tail) with
      | none => none
      | some (first, rest) =>
          match skipSpace false rest with
          | some (mark :: more) =>
              if mark = closer then some ([first], more)
              else if mark = ',' && more.length < text.length then
                (itemsUntil closer item more).map fun found => (first :: found.1, found.2)
              else none
          | _ => none
termination_by text.length
decreasing_by simp_all

/-- A key, an equals sign and a value; `skip` says what may stand around the sign. -/
def assignment (skip : Text -> Option Text) (value : Text -> Reading Value) (text : Text) :
    Reading (Key × Value) :=
  match key text with
  | none => none
  | some (key, rest) =>
      match skip rest with
      | some ('=' :: more) =>
          ((skip more).bind value).map fun found => ((key, found.1), found.2)
      | _ => none

/-- A value in which at most so many others are nested. -/
def value : Nat -> Text -> Reading Value
  | 0, text => simple text
  | depth + 1, text =>
      match text with
      | '[' :: tail =>
          (itemsUntil ']' (value depth) tail).map fun found => (.array found.1, found.2)
      | '{' :: tail =>
          match itemsUntil '}' (assignment (skipSpace false) (value depth)) tail with
          | some (assignments, rest) =>
              (Entries.ofAssignments assignments).map fun entries =>
                (.table .inline entries, rest)
          | none => none
      | _ => simple text

/-- The statement that a line begins with, if it is not blank and no comment. -/
def statement (text : Text) : Reading (Option Statement) :=
  match text with
  | [] => some (none, [])
  | '[' :: '[' :: tail =>
      match key tail with
      | some (key, ']' :: ']' :: rest) => some (some (.element key), rest)
      | _ => none
  | '[' :: tail =>
      match key tail with
      | some (key, ']' :: rest) => some (some (.table key), rest)
      | _ => none
  | head :: _ =>
      if head = '\n' || head = '\r' || head = '#' then some (none, text)
      else (assignment (some ∘ skipBlanks) (value greatestDepth) text).map fun found =>
        (some (.assignment found.1.1 found.1.2), found.2)

/-- The statements of a text. -/
def statements (text : Text) : Option (List Statement) :=
  if text.isEmpty then some []
  else match statement (skipBlanks text) with
  | none => none
  | some (found, rest) =>
      match skipLine rest with
      | none => none
      | some more =>
          if more.length < text.length then (statements more).map (found.toList ++ ·)
          else none
termination_by text.length

end Toml
end Lexis
