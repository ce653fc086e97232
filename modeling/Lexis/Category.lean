import Lexis.Text.Basic

namespace Lexis

/-!
Token categories.

A category says what a piece of source text is to a reader.  Each has a stable
name in lower-case words joined by hyphens; names and categories determine
each other.
-/

inductive Category where
  | comment
  | docComment
  | string
  | stringEscape
  | stringInterpolation
  | number
  | boolean
  | nullLiteral
  | keyword
  | keywordDeclaration
  | keywordControl
  | keywordOperator
  | keywordModifier
  | type
  | function
  | property
  | variableName
  | parameter
  | operator
  | punctuation
  | delimiter
  | attributeName
  | preprocessor
  | tag
  | tagAttribute
  | plain
  | whitespace
  | newline
  deriving DecidableEq, Repr

namespace Category

/-- Every category once, in the order they are listed to users. -/
def all : List Category := [
  comment, docComment, string, stringEscape, stringInterpolation, number, boolean, nullLiteral,
  keyword, keywordDeclaration, keywordControl, keywordOperator, keywordModifier, type, function,
  property, variableName, parameter, operator, punctuation, delimiter, attributeName, preprocessor, tag,
  tagAttribute, plain, whitespace, newline]

/-- The words a category's names are made of. -/
def words : Category -> List String
  | comment => ["comment"]
  | docComment => ["doc", "comment"]
  | string => ["string"]
  | stringEscape => ["string", "escape"]
  | stringInterpolation => ["string", "interpolation"]
  | number => ["number"]
  | boolean => ["boolean"]
  | nullLiteral => ["null", "literal"]
  | keyword => ["keyword"]
  | keywordDeclaration => ["keyword", "declaration"]
  | keywordControl => ["keyword", "control"]
  | keywordOperator => ["keyword", "operator"]
  | keywordModifier => ["keyword", "modifier"]
  | type => ["type"]
  | function => ["function"]
  | property => ["property"]
  | variableName => ["variable"]
  | parameter => ["parameter"]
  | operator => ["operator"]
  | punctuation => ["punctuation"]
  | delimiter => ["delimiter"]
  | attributeName => ["attribute"]
  | preprocessor => ["preprocessor"]
  | tag => ["tag"]
  | tagAttribute => ["tag", "attribute"]
  | plain => ["plain"]
  | whitespace => ["whitespace"]
  | newline => ["newline"]

/-- The name by which users and files refer to the category. -/
def name (category : Category) : String :=
  String.intercalate "-" category.words

/-- The name with each word capitalised and no hyphens, as diagnostics show it. -/
def title (category : Category) : String :=
  String.join (category.words.map String.capitalize)

def ofName? (name : String) : Option Category :=
  all.find? fun category => category.name == name

/-- The category's place in `all`. -/
def index (category : Category) : Nat :=
  all.idxOf category

/-- Blank text and line breaks, which are usually left uncoloured. -/
def isTrivia : Category -> Bool
  | whitespace | newline => true
  | _ => false

/-- The keyword roles, the unspecific one included. -/
def isKeyword : Category -> Bool
  | keyword | keywordDeclaration | keywordControl | keywordOperator | keywordModifier => true
  | _ => false

end Category
end Lexis
