import Lexis.Text.Basic
import Lexis.Unicode.GraphemeExtend
import Lexis.Unicode.Unprintable

namespace Lexis
namespace Text

/-!
Texts in double quotes, as output and messages show them.

Every character that cannot be told apart on a screen is shown by its code;
quotes and backslashes are escaped, so that the quoted form determines the text.
-/

/-- Lower-case hexadecimal digits of a code point. -/
def codeDigits (character : Char) : Text :=
  Nat.toDigits 16 character.toNat

def quoteCharacter (character : Char) : Text :=
  match character with
  | '\x00' => ['\\', '0']
  | '\t' => ['\\', 't']
  | '\r' => ['\\', 'r']
  | '\n' => ['\\', 'n']
  | '"' => ['\\', '"']
  | '\\' => ['\\', '\\']
  | _ =>
      if Unicode.isGraphemeExtend character || Unicode.isUnprintable character then
        ['\\', 'u', '\x7b'] ++ codeDigits character ++ ['\x7d']
      else [character]

/-- The text between double quotes. -/
def quoted (text : Text) : Text :=
  '"' :: text.flatMap quoteCharacter ++ ['"']

/-- The quoted form as a string. -/
def quotedString (text : Text) : String :=
  String.ofList text.quoted

end Text
end Lexis
