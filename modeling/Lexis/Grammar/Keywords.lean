import Lexis.Category

namespace Lexis

/-!
Words with a fixed meaning.

A grammar gives each word role a list of words.  The roles are ordered: a word
that stands in several lists has the first of their roles.
-/

/-- What a reserved or predefined word does, by falling priority. -/
inductive Role where
  | declaration
  | control
  | operator
  | modifier
  | other
  | boolean
  | null
  | types
  deriving DecidableEq, Repr

namespace Role

/-- Every role once, by falling priority. -/
def all : List Role :=
  [declaration, control, operator, modifier, other, boolean, null, types]

theorem mem_all (role : Role) : role ∈ all := by
  cases role <;> decide

/-- The category that a word of the role is shown in. -/
def category : Role -> Category
  | declaration => .keywordDeclaration
  | control => .keywordControl
  | operator => .keywordOperator
  | modifier => .keywordModifier
  | other => .keyword
  | boolean => .boolean
  | null => .nullLiteral
  | types => .type

end Role

/-- The words of each role; their order and repetitions mean nothing. -/
abbrev Keywords := Role -> List String

namespace Keywords

def none : Keywords :=
  fun _ => []

/-- The words of both, role by role. -/
def union (first second : Keywords) : Keywords :=
  fun role => first role ++ second role

/-- The first role that lists the word. -/
def role? (keywords : Keywords) (word : String) : Option Role :=
  Role.all.find? fun role => (keywords role).contains word

/-- The category of a word that some role lists. -/
def classify (keywords : Keywords) (word : String) : Option Category :=
  (keywords.role? word).map Role.category

end Keywords

/-- The distinct entries of a list in ascending order, as tables are shown. -/
def sortedDistinct {Entry : Type} [LT Entry] [DecidableEq Entry] [DecidableLT Entry]
    (entries : List Entry) : List Entry :=
  (entries.mergeSort fun first second => !decide (second < first)).eraseReps

end Lexis
