import Lexis.Scanner

namespace Lexis
namespace Markdown

/-!
Inline constructs of Markdown.

Code, emphasis and links end at their closer or, if there is none, at the end
of the line.  Fenced code is the one construct that spans lines: it ends with
three backticks at the start of a line.
-/

def fenceMark : Text := ['`', '`', '`']

/-- Fenced code behind its opening mark, or from the start of a line inside it. -/
def fenceBody : Text -> Body
  | [] => Body.unfinished
  | head :: tail =>
      if isLineBreak head && Text.opensWith fenceMark tail then
        (Body.finished fenceMark (tail.drop 3)).push head
      else (fenceBody tail).push head

/-- A character at which plain text stops, if it is not its first. -/
def stopsPlain (character : Char) : Bool :=
  isLineBreak character || ['#', '`', '*', '_', '[', '!', '>'].contains character

/-- A link behind its opening bracket: its label, and its target if one follows at once. -/
def link (text : Text) : Cut :=
  let label := Cut.through ']' text
  match label.rest with
  | '(' :: rest => (Cut.through ')' rest).pushAll (label.taken ++ ['('])
  | _ => label

/-- The lexeme that begins with a character inside a line; block marks no longer count on it. -/
def inline (head : Char) (tail : Text) : Step Bool :=
  let onLine (category : Category) (cut : Cut) : Step Bool :=
    { category := category, cut := cut, mode := false }
  if Text.opensWith fenceMark (head :: tail) then
    Step.ofBody .string .fence false (tail.take 2) (fenceBody (tail.drop 2))
  else if head = '`' then onLine .string (Cut.through '`' tail)
  else if head = '*' || head = '_' then
    if tail.head? = some head then
      onLine .keywordModifier (Cut.behind 1 (Cut.throughPair head) tail)
    else onLine .keyword (Cut.through head tail)
  else if head = '[' then onLine .function (link tail)
  else if head = '!' && tail.head? = some '[' then
    onLine .function (Cut.behind 1 link tail)
  else onLine .plain (Cut.run (fun character => !stopsPlain character) tail)

theorem whole_fenceBody (text : Text) : (fenceBody text).cut.whole = text := by
  fun_induction fenceBody text with
  | case1 => rfl
  | case2 head tail ends =>
      have opens := (Bool.and_eq_true_iff.mp ends).2
      simp only [Body.cut_push, Cut.whole_push, Body.whole_finished, List.cons.injEq, true_and]
      exact Body.append_drop_of_opensWith opens
  | case3 head tail _ ih => simp [ih]

theorem whole_link (text : Text) : (link text).whole = text := by
  have whole := Cut.whole_through ']' text
  simp only [link]
  split
  · next rest label =>
      simp only [Cut.whole, label] at whole
      simpa using whole
  · exact whole

theorem whole_inline (head : Char) (tail : Text) : (inline head tail).cut.whole = tail := by
  simp only [inline]
  split
  · simp [Step.ofBody, whole_fenceBody]
  split
  · simp
  split
  · split
    · exact Cut.whole_behind 1 (Cut.whole_throughPair head _)
    · simp
  split
  · exact whole_link tail
  split
  · exact Cut.whole_behind 1 (whole_link _)
  · simp

end Markdown
end Lexis
