import Lexis.Category
import Lexis.Cut

namespace Lexis
namespace Markdown

/-!
Block marks of Markdown.

A block mark is recognised only where nothing but blanks stands before it on
its line.  Headings, quotations and rules take the whole rest of the line; list
marks take themselves alone.
-/

/-- A mark that a horizontal rule is made of. -/
def isRuleMark (character : Char) : Bool :=
  character == '-' || character == '*' || character == '_'

/-- The line is a horizontal rule: at least three rule marks, and blanks, and nothing else. -/
def isRule (text : Text) : Bool :=
  let line := (Cut.toLineEnd text).taken
  line.all (fun character => isRuleMark character || isBlank character) &&
    3 ≤ line.countP isRuleMark

/-- A mark that an item of an unordered list begins with. -/
def isItemMark (character : Char) : Bool :=
  character == '-' || character == '*' || character == '+'

/-- What is left of an ordinal behind its first digit: digits and a full stop. -/
def ordinal? (tail : Text) : Option Cut :=
  let digits := Cut.run isDigit tail
  match digits.rest with
  | '.' :: rest => some { taken := digits.taken ++ ['.'], rest := rest }
  | _ => none

/-- The block mark that begins with `head`, as its category and what it takes of the tail. -/
def blockMark? (head : Char) (tail : Text) : Option (Category × Cut) :=
  if head = '#' then some (.keywordDeclaration, Cut.toLineEnd tail)
  else if head = '>' then some (.comment, Cut.toLineEnd tail)
  else if isRuleMark head && isRule (head :: tail) then some (.comment, Cut.toLineEnd tail)
  else if isItemMark head && tail.head?.any Unicode.isWhiteSpace then
    some (.keywordControl, Cut.stop tail)
  else if isDigit head then (ordinal? tail).map fun cut => (.keywordControl, cut)
  else none

theorem whole_of_ordinal? {tail : Text} {cut : Cut} (found : ordinal? tail = some cut) :
    cut.whole = tail := by
  simp only [ordinal?] at found
  split at found
  · next rest digits =>
      obtain rfl := Option.some.inj found
      have whole := Cut.whole_run isDigit tail
      simp only [Cut.whole, digits] at whole
      simpa [Cut.whole] using whole
  · exact absurd found (by simp)

theorem whole_of_blockMark? {head : Char} {tail : Text} {category : Category} {cut : Cut}
    (found : blockMark? head tail = some (category, cut)) : cut.whole = tail := by
  simp only [blockMark?] at found
  split at found
  · obtain ⟨-, rfl⟩ := Prod.mk.inj (Option.some.inj found)
    exact Cut.whole_toLineEnd tail
  split at found
  · obtain ⟨-, rfl⟩ := Prod.mk.inj (Option.some.inj found)
    exact Cut.whole_toLineEnd tail
  split at found
  · obtain ⟨-, rfl⟩ := Prod.mk.inj (Option.some.inj found)
    exact Cut.whole_toLineEnd tail
  split at found
  · obtain ⟨-, rfl⟩ := Prod.mk.inj (Option.some.inj found)
    exact Cut.whole_stop tail
  split at found
  · obtain ⟨mark, isMark, same⟩ := Option.map_eq_some_iff.mp found
    obtain ⟨-, rfl⟩ := Prod.mk.inj same
    exact whole_of_ordinal? isMark
  · exact absurd found (by simp)

end Markdown
end Lexis
