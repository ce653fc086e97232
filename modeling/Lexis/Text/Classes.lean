import Lexis.Text.Basic
import Lexis.Unicode.Alphabetic
import Lexis.Unicode.Numeric
import Lexis.Unicode.WhiteSpace

namespace Lexis

/-!
Character classes that lexical rules are stated in.

Words and blanks are meant in the sense of Unicode.  Digits are the ten ASCII
digits, because numbers in source text are written with those alone.
-/

def isLineBreak (character : Char) : Bool :=
  character == '\n' || character == '\r'

/-- White space that does not break the line. -/
def isBlank (character : Char) : Bool :=
  Unicode.isWhiteSpace character && !isLineBreak character

def isLetter (character : Char) : Bool :=
  Unicode.isAlphabetic character

def isLetterOrNumeral (character : Char) : Bool :=
  Unicode.isAlphabetic character || Unicode.isNumeric character

/-- A character a word can begin with. -/
def isWordStart (character : Char) : Bool :=
  isLetter character || character == '_'

/-- A character a word can go on with. -/
def isWordPart (character : Char) : Bool :=
  isLetterOrNumeral character || character == '_'

def isDigit (character : Char) : Bool :=
  '0' ≤ character && character ≤ '9'

/-- The value of a digit in bases up to sixteen, in either case. -/
def digitValue? (character : Char) : Option Nat :=
  if isDigit character then some (character.toNat - '0'.toNat)
  else if 'a' ≤ character && character ≤ 'f' then some (character.toNat - 'a'.toNat + 10)
  else if 'A' ≤ character && character ≤ 'F' then some (character.toNat - 'A'.toNat + 10)
  else none

def isDigitIn (base : Nat) (character : Char) : Bool :=
  (digitValue? character).any (· < base)

end Lexis
