import Lexis.Unicode.Ranges

namespace Lexis
namespace Unicode

/-!
Characters with the White_Space property.  The zero width space and the zero
width no-break space are not among them.
-/

def whiteSpaceRanges : Ranges := [
  (0x9, 0xD), (0x20, 0x20), (0x85, 0x85), (0xA0, 0xA0), (0x1680, 0x1680), (0x2000, 0x200A),
  (0x2028, 0x2029), (0x202F, 0x202F), (0x205F, 0x205F), (0x3000, 0x3000)]

/-- The character has the White_Space property. -/
def isWhiteSpace (character : Char) : Bool :=
  whiteSpaceRanges.contains character

end Unicode
end Lexis
