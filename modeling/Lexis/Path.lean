import Lexis.Text.Basic

namespace Lexis
namespace Path

/-!
File names and extensions of slash-separated paths.

A path is read component by component.  Empty components and single dots mean
nothing; two dots lead to a parent directory, which has no file name here.
-/

/-- The pieces between slashes, empty ones included. -/
def pieces : Text -> List Text
  | [] => [[]]
  | head :: tail =>
      if head = '/' then [] :: pieces tail
      else (pieces tail).modifyHead (head :: ·)

/-- The components that say something on where the path leads. -/
def components (path : Text) : List Text :=
  (pieces path).filter fun piece => piece ≠ [] && piece ≠ ['.']

/-- The last component, unless it leads to a parent directory. -/
def fileName? (path : Text) : Option Text :=
  match (components path).getLast? with
  | some name => if name = ['.', '.'] then none else some name
  | none => none

/-- What follows the last dot of a file name that has text before that dot. -/
def extensionOf? (name : Text) : Option Text :=
  let reversed := name.reverse
  match reversed.dropWhile (· ≠ '.') with
  | [] => none
  | _ :: stem =>
      if stem = [] then none
      else some (reversed.takeWhile (· ≠ '.')).reverse

/-- The extension of the path's file name. -/
def extension? (path : Text) : Option Text :=
  (fileName? path).bind extensionOf?

end Path
end Lexis
