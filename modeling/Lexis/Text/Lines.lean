import Lexis.Text.Basic

namespace Lexis
namespace Text

/-!
Lines of a text.

Every line keeps the line feed that ends it, so the lines put together are the
text again.  A text with `n` line feeds has `n + 1` lines, the last of them
without a line feed and possibly empty.
-/

/-- The lines of the text in order. -/
def lines : Text -> List Text
  | [] => [[]]
  | head :: tail =>
      if head = '\n' then [head] :: lines tail
      else (lines tail).modifyHead (head :: ·)

theorem lines_ne_nil (text : Text) : lines text ≠ [] := by
  induction text with
  | nil => simp [lines]
  | cons head tail ih =>
      simp only [lines]
      split
      · simp
      · cases rest : lines tail with
        | nil => exact absurd rest ih
        | cons line more => simp

theorem flatten_lines (text : Text) : (lines text).flatten = text := by
  induction text with
  | nil => rfl
  | cons head tail ih =>
      simp only [lines]
      split
      · simp [ih]
      · cases rest : lines tail with
        | nil => exact absurd rest (lines_ne_nil tail)
        | cons line more => simpa [rest] using ih

theorem length_lines (text : Text) : (lines text).length = lineFeeds text + 1 := by
  induction text with
  | nil => rfl
  | cons head tail ih =>
      simp only [lines]
      split
      · next feed => simp [ih, feed, lineFeeds]
      · next other => simp [ih, lineFeeds, other]

/-- The line a byte offset falls on, counted from zero. -/
def lineOf (offset : Nat) (text : Text) : Nat :=
  lineFeeds (before offset text)

/-- The byte offset at which a line starts. -/
def lineStart (line : Nat) (text : Text) : Nat :=
  size ((lines text).take line).flatten

end Text
end Lexis
