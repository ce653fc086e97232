import Lexis.Grammar.Keywords
import Lexis.Text.Basic

namespace Lexis

/-!
Grammars of languages that are scanned word by word.

A grammar is a table: its keywords, the characters its operators are made of,
and the constructs it has.  It says nothing on how a text is scanned.
-/

/-- Constructs that a language may have. -/
structure Features where
  /-- Strings between single quotes. -/
  singleQuoteStrings : Bool := false
  /-- Strings between backticks. -/
  backtickStrings : Bool := false
  /-- Strings between tripled quotes, and strings between backticks that span lines. -/
  multilineStrings : Bool := false
  /-- Attributes and decorators that begin with an at sign. -/
  attributes : Bool := false
  /-- Directives that begin with a number sign. -/
  preprocessor : Bool := false
  /-- Comments from a number sign to the end of the line. -/
  hashComments : Bool := false
  /-- Comments of markup languages. -/
  markupComments : Bool := false
  /-- Tags in angle brackets, with attributes. -/
  tags : Bool := false
  /-- Line comments with a third slash or an exclamation mark are documentation. -/
  docComments : Bool := false
  /-- Numbers in base eight. -/
  octalNumbers : Bool := false
  deriving DecidableEq, Repr

structure Grammar where
  keywords : Keywords := Keywords.none
  /-- The characters operators are made of; their order and repetitions mean nothing. -/
  operators : Text := []
  features : Features := {}

namespace Grammar

/-- The operator characters that most languages have. -/
def commonOperators : Text :=
  ['+', '-', '*', '/', '%', '=', '<', '>', '!', '&', '|', '^', '~', '?', ':', '.']

def isOperator (grammar : Grammar) (character : Char) : Bool :=
  grammar.operators.contains character

end Grammar
end Lexis
