import Lexis.Settings.Basic
import Lexis.Text.Utf8
import Lexis.Toml.Document
import Lexis.Toml.Storable
import Lexis.Toml.Written

namespace Lexis

/-!
Settings as TOML files.

A file has a table of extensions and an array of tables with a pattern and a
language each.  Either may be missing, and what else stands in the file is
ignored, but for numbers that no machine format can hold.  `Settings.write` and
`Settings.parse` are inverse on valid settings.
-/

/-- What is found where a file is looked for. -/
inductive FileContent where
  | missing
  | unreadable
  | bytes (bytes : List UInt8)
  deriving DecidableEq, Repr

/-- Why a settings file is refused. -/
inductive LoadError where
  | unreadable
  | malformed
  | invalid (error : SettingsError)
  deriving DecidableEq, Repr

namespace Settings

def extensionsKey : Text :=
  ['e', 'x', 't', 'e', 'n', 's', 'i', 'o', 'n', 's']

def associationsKey : Text :=
  ['a', 's', 's', 'o', 'c', 'i', 'a', 't', 'i', 'o', 'n', 's']

def patternKey : Text :=
  ['p', 'a', 't', 't', 'e', 'r', 'n']

def languageKey : Text :=
  ['l', 'a', 'n', 'g', 'u', 'a', 'g', 'e']

/-! Reading -/

def stringOf? : Toml.Value -> Option Text
  | .string text => some text
  | _ => none

/-- The association that a table with a pattern and a language stands for. -/
def associationOf? (entries : Toml.Entries) : Option Association := do
  guard (Toml.Entries.othersStorable [patternKey, languageKey] entries)
  let pattern ← (Toml.Entries.find? entries patternKey).bind stringOf?
  let language ← (Toml.Entries.find? entries languageKey).bind stringOf?
  return { pattern := pattern, language := language }

/-- An association is a table, or an array that begins with the pattern and the language. -/
def associationOfValue? : Toml.Value -> Option Association
  | .table _ entries => associationOf? entries
  | .array (first :: second :: _) => do
      return { pattern := ← stringOf? first, language := ← stringOf? second }
  | _ => none

def associationsOf? : Option Toml.Value -> Option (List Association)
  | none => some []
  | some (.array values) => values.mapM associationOfValue?
  | some (.tables elements) => elements.mapM associationOf?
  | some _ => none

/-- The extensions are a table of strings; a date counts as a table that holds its own text. -/
def extensionsOf? : Option Toml.Value -> Option Dictionary
  | none => some Dictionary.empty
  | some (.table _ entries) =>
      (entries.mapM fun entry => (stringOf? entry.2).map fun text => (entry.1, text)).map
        Dictionary.ofList
  | some (.date text) => some (Dictionary.ofList [([], text)])
  | some _ => none

/-- The settings that a file's table stands for. -/
def ofEntries? (entries : Toml.Entries) : Option Settings := do
  guard (Toml.Entries.othersStorable [extensionsKey, associationsKey] entries)
  let extensions ← extensionsOf? (Toml.Entries.find? entries extensionsKey)
  let associations ← associationsOf? (Toml.Entries.find? entries associationsKey)
  return { extensions := extensions, associations := associations }

/-- The settings in a file's text, if they are well formed and valid. -/
def parse (text : Text) : Except LoadError Settings :=
  match (Toml.read? text).bind ofEntries? with
  | none => .error .malformed
  | some settings =>
      match settings.validate with
      | .ok () => .ok settings
      | .error error => .error (.invalid error)

/-- The settings in a file; a missing file is no error and holds none. -/
def load : FileContent -> Except LoadError (Option Settings)
  | .missing => .ok none
  | .unreadable => .error .unreadable
  | .bytes bytes =>
      match Utf8.decode bytes with
      | .ok text => (parse text).map some
      | .error _ => .error .unreadable

/-! Writing -/

/-- A line that gives a key a string. -/
def writeEntry (key text : Text) : Text :=
  Toml.writeKey key ++ [' ', '=', ' '] ++ Toml.writeString text ++ ['\n']

/-- The table of extensions, unless there are none. -/
def extensionBlocks (extensions : Dictionary) : List Text :=
  if extensions.entries.isEmpty then []
  else
    let lines := extensions.entries.flatMap fun entry => writeEntry entry.1 entry.2
    [['['] ++ extensionsKey ++ [']', '\n'] ++ lines]

def associationBlock (association : Association) : Text :=
  ['[', '['] ++ associationsKey ++ [']', ']', '\n'] ++
    writeEntry patternKey association.pattern ++ writeEntry languageKey association.language

/-- The text of a file for the settings; its tables are separated by blank lines. -/
def write (settings : Settings) : Text :=
  List.intercalate ['\n']
    (extensionBlocks settings.extensions ++ settings.associations.map associationBlock)

end Settings
end Lexis
