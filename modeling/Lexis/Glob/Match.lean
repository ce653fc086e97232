import Lexis.Glob.Pattern
import Lexis.Text.Folding

namespace Lexis
namespace Glob

/-!
Matching file names against patterns.

Letters match without regard to ASCII case.  Of all parts only `**` matches a
slash.  Each part is given what the parts behind it accept, and accepts a text
if it can take some beginning of it and leave them the rest.
-/

/-- Both ends of the range are ASCII letters, so that it covers both cases of them. -/
def foldsRange (first last : Char) : Bool :=
  first.isAlpha && last.isAlpha

def Item.contains (character : Char) : Item -> Bool
  | single member => foldCase character == foldCase member
  | range first last =>
      (character.toNat < 128 && foldsRange first last &&
        foldCase first ≤ foldCase character && foldCase character ≤ foldCase last) ||
      (first ≤ character && character ≤ last)

/-- Takes one character that passes a test. -/
def acceptsOne (test : Char -> Bool) (rest : Text -> Bool) : Text -> Bool
  | [] => false
  | head :: tail => test head && rest tail

/-- Takes any characters but slashes. -/
def acceptsRun (rest : Text -> Bool) : Text -> Bool
  | [] => rest []
  | head :: tail => rest (head :: tail) || (head != '/' && acceptsRun rest tail)

/-- Takes whole directories, or everything; `atStart` tells that nothing or a slash was taken last. -/
def acceptsDirectories (rest : Text -> Bool) (atStart : Bool) : Text -> Bool
  | [] => rest []
  | head :: tail =>
      (atStart && rest (head :: tail)) || acceptsDirectories rest (head == '/') tail

def Part.accepts (part : Part) (rest : Text -> Bool) : Text -> Bool :=
  match part with
  | literal expected => acceptsOne (fun character => foldCase character == foldCase expected) rest
  | anyCharacter => acceptsOne (fun character => character != '/') rest
  | within items =>
      acceptsOne (fun character => character != '/' && items.any (·.contains character)) rest
  | outside items =>
      acceptsOne (fun character => character != '/' && !items.any (·.contains character)) rest
  | anyRun => acceptsRun rest
  | anyDirectories => acceptsDirectories rest true

/-- The parts together match the whole text. -/
def accepts (parts : List Part) : Text -> Bool :=
  parts.foldr Part.accepts List.isEmpty

/-- The pattern can be read and matches the name. -/
def isMatch (pattern name : Text) : Bool :=
  match parts pattern with
  | .ok parts => accepts parts name
  | .error _ => false

end Glob
end Lexis
