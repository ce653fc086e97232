import Lexis.Grammar.Scan
import Lexis.Language.Grammar
import Lexis.Markdown.Scan

namespace Lexis

/-!
Highlighters: a language together with the way its texts are scanned.

A text without a known language is highlighted as plain text.
-/

/-- How a text is scanned. -/
inductive Method where
  /-- The whole text is one lexeme. -/
  | plain
  | byGrammar (grammar : Grammar)
  | markdown

namespace Method

/-- The only lexeme of a plain text, unless the text is empty. -/
def scanPlain (text : Text) : Scan :=
  let lexeme : Lexeme :=
    { category := .plain, text := text, lineStates := List.replicate text.lineFeeds .normal }
  { lexemes := if text.isEmpty then [] else [lexeme], endState := .normal }

/-- Scans a text that an earlier one left in the given state. -/
def scan (method : Method) (state : State) (text : Text) : Scan :=
  match method with
  | plain => scanPlain text
  | byGrammar grammar => grammar.scan state text
  | markdown => Markdown.scan state text

def isPlain : Method -> Bool
  | plain => true
  | _ => false

end Method

structure Highlighter where
  language : Language
  method : Method

namespace Highlighter

def ofLanguage (language : Language) : Highlighter where
  language := language
  method :=
    match language.grammar? with
    | some grammar => .byGrammar grammar
    | none => if language = .markdown then .markdown else .plain

/-- The highlighter of a language, or of plain text if there is none. -/
def ofLanguage? (language : Option Language) : Highlighter :=
  ofLanguage (language.getD .plainText)

def scan (highlighter : Highlighter) (state : State) (text : Text) : Scan :=
  highlighter.method.scan state text

/-- The tokens of a whole text. -/
def tokenize (highlighter : Highlighter) (text : Text) : List Token :=
  (highlighter.scan .normal text).tokens 0

end Highlighter

/-- The tokens of a text in a language, or of a plain text if there is none. -/
def tokenize (text : Text) (language : Option Language) : List Token :=
  (Highlighter.ofLanguage? language).tokenize text

end Lexis
