import Lexis.Text.Basic

namespace Lexis

/-!
Comparison without regard to ASCII case.

Only the letters `A` to `Z` are folded; every other character, accented
letters included, is equal to itself alone.
-/

/-- The lower-case form of an ASCII letter; any other character is itself. -/
def foldCase (character : Char) : Char :=
  character.toLower

namespace Text

def folded (text : Text) : Text :=
  text.map foldCase

/-- The texts are equal up to the case of ASCII letters. -/
def sameFolded (left right : Text) : Bool :=
  left.folded == right.folded

end Text
end Lexis
