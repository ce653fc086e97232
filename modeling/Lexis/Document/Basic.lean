import Lexis.Document.Edit
import Lexis.Rescan
import Lexis.Text.Utf8

namespace Lexis

/-!
Documents: texts whose tokens are kept up to date.

A document holds its text, the text's tokens and the state at the end of each
line.  An edit rescans only the lines it can have changed and moves the other
tokens; a plain text, which is a single token, is scanned as a whole.
-/

structure Document where
  text : Text
  highlighter : Highlighter
  tokens : List Token
  cached : LineStates
  /-- Counts the applied edits and the changes of language. -/
  version : Nat

namespace Document

/-- Scans the whole text. -/
def scanned (highlighter : Highlighter) (text : Text) (version : Nat) : Document :=
  let scan := highlighter.scan .normal text
  { text := text
    highlighter := highlighter
    tokens := scan.tokens 0
    cached := LineStates.ofScan scan
    version := version }

/-- A new document; without a language it is plain text. -/
def create (text : Text) (language : Option Language) : Document :=
  scanned (Highlighter.ofLanguage? language) text 0

def ofBytes (bytes : List UInt8) (language : Option Language) : Except Utf8.Fault Document :=
  (Utf8.decode bytes).map fun text => create text language

def language (document : Document) : Language :=
  document.highlighter.language

def size (document : Document) : Nat :=
  document.text.size

def lineCount (document : Document) : Nat :=
  document.text.lineFeeds + 1

/-- The patch of a document that was scanned as a whole. -/
def fullPatch (document : Document) (edited : Span) (oldLines : Nat) : Patch :=
  { edited := edited
    rescannedLines := { start := 0, stop := document.cached.count }
    rescanned := { start := 0, stop := document.size }
    lineDelta := (document.cached.count : Int) - oldLines
    fullRescan := true
    version := document.version }

/-- Changes the language and scans the whole text. -/
def setLanguage (document : Document) (language : Option Language) : Patch × Document :=
  let changed :=
    scanned (Highlighter.ofLanguage? language) document.text (document.version + 1)
  (changed.fullPatch { start := 0, stop := 0 } document.cached.count, changed)

/--
The tokens before the rescanned lines, the fresh ones and those after them.
Tokens that cross the edge of the rescanned lines are cut there, and joined
again where a construct is open at the edge.
-/
def spliceTokens (document : Document) (result : Rescan) (delta : Int) : List Token :=
  let isOpen (state : Option State) : Bool := state.any fun state => !state.isNormal
  let head := Token.before result.span.start document.tokens
  let kept := Token.after (result.oldStop delta) document.tokens
  let front :=
    Token.join (isOpen (document.cached.entryState? result.lines.start)) head result.tokens
  Token.join (isOpen result.states.getLast?) front (kept.map (·.shift delta))

/-- The edited document with the rescanned lines in place. -/
def splice (document : Document) (text : Text) (result : Rescan) (delta : Int) : Document :=
  { document with
    text := text
    tokens := document.spliceTokens result delta
    cached := document.cached.splice result.oldLines result.states
    version := document.version + 1 }

/-- Applies an edit that nothing speaks against. -/
def applyEdit (document : Document) (edit : Edit) : Patch × Document :=
  let text := edit.applyTo document.text
  let highlighter := document.highlighter
  let rescan? :=
    if highlighter.method.isPlain then none
    else highlighter.rescan text document.cached edit.inserted
  match rescan? with
  | none =>
      let changed := scanned highlighter text (document.version + 1)
      (changed.fullPatch edit.inserted document.cached.count, changed)
  | some result =>
      let patch : Patch :=
        { edited := edit.inserted
          rescannedLines := result.lines
          rescanned := result.span
          lineDelta := result.lineDelta
          fullRescan := false
          version := document.version + 1 }
      (patch, document.splice text result edit.delta)

/-- Applies an edit and brings the tokens up to date, or refuses it. -/
def apply (document : Document) (edit : Edit) : Except EditError (Patch × Document) :=
  match edit.error? document.text with
  | some error => .error error
  | none => .ok (document.applyEdit edit)

end Document
end Lexis
