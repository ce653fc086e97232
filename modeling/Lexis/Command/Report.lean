import Lexis.Command.Files
import Lexis.Command.Options
import Lexis.Document.Query
import Lexis.Settings.File

namespace Lexis
namespace Command

/-!
What a command prints.

The command reads its file, chooses a language, applies the edits one after
the other, and prints a line for each token that the options show.  Edits that
cannot be applied are skipped with a warning.
-/

inductive Level where
  | info
  | warn
  deriving DecidableEq, Repr

def Level.name : Level -> String
  | info => "INFO"
  | warn => "WARN"

structure Message where
  level : Level
  text : String
  deriving DecidableEq, Repr

/-- Why a command fails once its options are read. -/
inductive Failure where
  | unreadable (file : Text) (fault : ReadFault)
  | unknownLanguage (key : Text)
  | notText (file : Text) (fault : Utf8.Fault)
  deriving DecidableEq, Repr

def Failure.message : Failure -> String
  | unreadable file fault => s!"failed to read {String.ofList file}: {fault.message}"
  | unknownLanguage key => s!"unknown language {key.quotedString}"
  | notText file fault => s!"{String.ofList file} is not valid UTF-8: {fault.message}"

/-- The lines and messages of a command, and how it ended. -/
structure Report where
  lines : List String := []
  messages : List Message := []
  failure : Option Failure := none
  deriving DecidableEq, Repr

/-- The settings in a file, or none at all with a warning if the file is refused. -/
def usableSettings (content : FileContent) : Settings × List Message :=
  match Settings.load content with
  | .ok settings => (settings.getD {}, [])
  | .error _ => ({}, [{ level := .warn, text := "Ignoring config file" }])

/-- The language of the file, by option or by settings, with the messages on the way. -/
def chooseLanguage (options : Options) (content : FileContent) :
    Except Failure (Option Language × List Message) :=
  match options.language with
  | some key =>
      match Language.resolve? key with
      | some language => .ok (some language, [])
      | none => .error (.unknownLanguage key)
  | none =>
      let (settings, messages) := usableSettings content
      .ok (settings.languageOf? options.file, messages)

/-- Applies an edit, or skips it, and tells so. -/
def applyEdit (document : Document) (edit : Edit) : Document × Message :=
  match document.apply edit with
  | .ok (patch, changed) =>
      let full := if patch.fullRescan then " (full)" else ""
      (changed,
        { level := .info
          text := s!"edit {edit.span.display} rescanned lines " ++
            s!"{patch.rescannedLines.display}{full}" })
  | .error error =>
      (document,
        { level := .warn, text := s!"Skipping edit {edit.span.display}: {error.message}" })

/-- Applies one edit after the other. -/
def applyEdits (document : Document) : List Edit -> Document × List Message
  | [] => (document, [])
  | edit :: edits =>
      let (changed, message) := applyEdit document edit
      let (final, messages) := applyEdits changed edits
      (final, message :: messages)

/-- The text with spaces behind it up to a width. -/
def padRight (width : Nat) (text : String) : String :=
  text ++ String.ofList (List.replicate (width - text.length) ' ')

/-- The text with spaces before it up to a width. -/
def padLeft (width : Nat) (text : String) : String :=
  String.ofList (List.replicate (width - text.length) ' ') ++ text

/-- The line for a token: its category, its place and its text. -/
def tokenLine (document : Document) (token : Token) : String :=
  let place := padLeft 6 (toString token.start) ++ ".." ++ padRight 6 (toString token.stop)
  let text := (document.slice token.span).quotedString
  padRight 20 token.category.name ++ " " ++ place ++ " " ++ text

/-- What the command reports on a document once its edits are applied. -/
def shownLines (options : Options) (document : Document) : List String :=
  (document.tokens.filter fun token => options.shows token.category).map (tokenLine document)

def opened (options : Options) (document : Document) : Message :=
  { level := .info
    text := s!"{String.ofList options.file} as {document.language.displayName} " ++
      s!"({document.lineCount} lines)" }

/-- Runs a command on the content of its file and of the settings file. -/
def report (options : Options) (content : Except ReadFault (List UInt8))
    (settings : FileContent) : Report :=
  match content with
  | .error fault => { failure := some (.unreadable options.file fault) }
  | .ok bytes =>
      match chooseLanguage options settings with
      | .error failure => { failure := some failure }
      | .ok (language, messages) =>
          match Document.ofBytes bytes language with
          | .error fault =>
              { messages := messages, failure := some (.notText options.file fault) }
          | .ok document =>
              let (final, more) := applyEdits document options.edits
              { lines := shownLines options final
                messages := messages ++ opened options document :: more }

end Command
end Lexis
