import Lexis.Category
import Lexis.Document.Edit
import Lexis.Text.Quoted

namespace Lexis
namespace Command

/-!
Command line options.

A command names one file and may give a language, edits to apply to the text,
and the categories to show.
-/

/-- A group of categories to show. -/
inductive Selection where
  | category (category : Category)
  /-- Every keyword role. -/
  | keywords
  deriving DecidableEq, Repr

namespace Selection

def ofName? (name : String) : Option Selection :=
  if name = "keywords" then some keywords else (Category.ofName? name).map category

def includes (selection : Selection) (candidate : Category) : Bool :=
  match selection with
  | category wanted => wanted == candidate
  | keywords => candidate.isKeyword

end Selection

structure Options where
  file : Text
  language : Option Text := none
  edits : List Edit := []
  /-- What to show; an empty list stands for everything. -/
  only : List Selection := []
  hideTrivia : Bool := false
  deriving DecidableEq, Repr

/-- Tokens of the category are shown. -/
def Options.shows (options : Options) (category : Category) : Bool :=
  !(options.hideTrivia && category.isTrivia) &&
    (options.only.isEmpty || options.only.any (·.includes category))

/-- Why arguments are refused. -/
inductive OptionError where
  | noFile
  | secondFile
  | missingValue (option : String)
  | unknownOption (option : String)
  | unknownCategory (name : String)
  | malformedEdit (value : Text)
  | badStart (value : Text)
  | badEnd (value : Text)
  deriving DecidableEq, Repr

def OptionError.message : OptionError -> String
  | noFile => "no file given"
  | secondFile => "only one file can be highlighted at a time"
  | missingValue option => s!"{option} needs a value"
  | unknownOption option => s!"unknown option {option}"
  | unknownCategory name => s!"unknown token category {Text.quotedString name.toList}"
  | malformedEdit value => s!"edit {value.quotedString} is not of the form start:end:text"
  | badStart value => s!"bad edit start {value.quotedString}"
  | badEnd value => s!"bad edit end {value.quotedString}"

/-- An offset in decimal digits, with an optional plus sign. -/
def offset? (text : Text) : Option Nat :=
  let digits := match text with
    | '+' :: tail => tail
    | _ => text
  if digits.isEmpty || !digits.all Char.isDigit then none
  else
    let value := digits.foldl (fun value digit => 10 * value + (digit.toNat - '0'.toNat)) 0
    if value ≤ maxOffset then some value else none

/-- The text before the first colon and the text behind it. -/
def splitColon (text : Text) : Option (Text × Text) :=
  match text.dropWhile (· ≠ ':') with
  | [] => none
  | _ :: rest => some (text.takeWhile (· ≠ ':'), rest)

/-- A backslash with the letter n or t stands for a line feed or a tab. -/
def unescape : Text -> Text
  | '\\' :: 'n' :: tail => '\n' :: unescape tail
  | '\\' :: 't' :: tail => '\t' :: unescape tail
  | head :: tail => head :: unescape tail
  | [] => []

/-- An edit as start, end and text between colons; the text may hold further colons. -/
def edit? (value : Text) : Except OptionError Edit := do
  let some (start, rest) := splitColon value | throw (.malformedEdit value)
  let some (stop, text) := splitColon rest | throw (.malformedEdit value)
  let some startOffset := offset? start | throw (.badStart start)
  let some stopOffset := offset? stop | throw (.badEnd stop)
  return { span := { start := startOffset, stop := stopOffset }, text := unescape text }

/-- The options read so far; the file may still be missing. -/
structure PartialOptions where
  file : Option Text := none
  options : Options := { file := [] }

/-- Reads arguments into the options read before them. -/
def readArguments (sofar : PartialOptions) : List String -> Except OptionError PartialOptions
  | [] => .ok sofar
  | argument :: arguments =>
      let options := sofar.options
      if argument = "--language" || argument = "-l" then
        match arguments with
        | [] => .error (.missingValue "--language")
        | value :: rest =>
            readArguments
              { sofar with options := { options with language := some value.toList } } rest
      else if argument = "--edit" || argument = "-e" then
        match arguments with
        | [] => .error (.missingValue "--edit")
        | value :: rest => do
            let edit ← edit? value.toList
            readArguments
              { sofar with options := { options with edits := options.edits ++ [edit] } } rest
      else if argument = "--only" then
        match arguments with
        | [] => .error (.missingValue "--only")
        | value :: rest =>
            match Selection.ofName? value with
            | none => .error (.unknownCategory value)
            | some selection =>
                readArguments
                  { sofar with options := { options with only := options.only ++ [selection] } }
                  rest
      else if argument = "--no-trivia" then
        readArguments { sofar with options := { options with hideTrivia := true } } arguments
      else if argument.toList.head? = some '-' then .error (.unknownOption argument)
      else if sofar.file.isSome then .error .secondFile
      else readArguments { sofar with file := some argument.toList } arguments

/-- The options that arguments give. -/
def Options.ofArguments (arguments : List String) : Except OptionError Options := do
  let found ← readArguments {} arguments
  match found.file with
  | some file => return { found.options with file := file }
  | none => throw .noFile

end Command
end Lexis
