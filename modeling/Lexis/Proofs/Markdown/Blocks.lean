import Lexis.Proofs.Markdown.Marks
import Lexis.Proofs.Scanner.Since

namespace Lexis
namespace Markdown

/-!
Blocks of Markdown.

Headings, quotations, rules and the marks of list items stand where nothing but
blanks is in front of them on their line, and nowhere else
(`blocks_at_line_starts`).
-/

variable {head : Char} {tail text front behind rest : Text} {category : Category}
  {atStart : Bool}

/-! ## Steps -/

/-- The categories of the marks of blocks. -/
def blockCategories : List Category :=
  [.keywordDeclaration, .keywordControl, .comment]

/-- The categories of what stands inside of lines. -/
def inlineCategories : List Category :=
  [.string, .keywordModifier, .keyword, .function, .plain]

theorem BlockMark.category_mem (isMark : BlockMark category front behind) :
    category ∈ blockCategories := by
  cases isMark <;> decide

theorem BlockMark.exists_cons (isMark : BlockMark category front behind) :
    exists head rest, front = head :: rest := by
  cases isMark <;> exact ⟨_, _, rfl⟩

/-- What a step can do at the start of a nonempty text. -/
inductive IsStep (atStart : Bool) (head : Char) (tail : Text) : Step Bool -> Prop
  | blank (blank : isBlank head = true) :
      IsStep atStart head tail
        { category := .whitespace, cut := Cut.run isBlank tail, mode := atStart }
  | lineBreak (breaks : isLineBreak head = true) :
      IsStep atStart head tail (Step.lineBreak true head tail)
  | block {category : Category} {cut : Cut} (isAtStart : atStart = true)
      (isMark : BlockMark category (head :: cut.taken) cut.rest) :
      IsStep atStart head tail { category := category, cut := cut, mode := false }
  | inline (notBlank : isBlank head = false) (inLine : isLineBreak head = false) :
      IsStep atStart head tail (Markdown.inline head tail)

theorem isStep_next (atStart : Bool) (head : Char) (tail : Text) :
    IsStep atStart head tail (scanner.next atStart head tail) := by
  simp only [scanner, next]
  split
  · next blank => exact .blank blank
  next notBlank =>
  split
  · next breaks => exact .lineBreak breaks
  next inLine =>
  split
  · next category cut found =>
      cases atStart with
      | false => exact absurd found (by simp)
      | true => exact .block rfl (blockMark_of_blockMark? found)
  · exact .inline (by simpa using notBlank) (by simpa using inLine)

theorem next_of_blockMark (isMark : BlockMark category (head :: rest) behind) :
    scanner.next true head (rest ++ behind) =
      { category := category, cut := { taken := rest, rest := behind }, mode := false } := by
  simp only [scanner, next, isMark.not_blank, blockMark?_of_blockMark isMark, Bool.false_eq_true,
    if_false, if_true]

theorem mode_inline (head : Char) (tail : Text) : (inline head tail).mode = false := by
  simp only [inline]
  repeat' split
  all_goals rfl

theorem category_inline (head : Char) (tail : Text) :
    (inline head tail).category ∈ inlineCategories := by
  simp only [inline]
  repeat' split
  all_goals simp [Step.ofBody, inlineCategories]

/-- Line breaks let block marks count, blanks leave them as they are, and nothing else does. -/
theorem IsStep.mode_iff {step : Step Bool} (isStep : IsStep atStart head tail step) :
    step.mode = true <->
      step.category = .newline ∨ step.category = .whitespace ∧ atStart = true := by
  cases isStep with
  | blank _ => simp
  | lineBreak _ => simp [Step.lineBreak]
  | block _ isMark =>
      have others := isMark.category_mem
      simp only [blockCategories, List.mem_cons, List.not_mem_nil, or_false] at others
      rcases others with rfl | rfl | rfl <;> simp
  | inline _ _ =>
      have others := category_inline head tail
      simp only [inlineCategories, List.mem_cons, List.not_mem_nil, or_false] at others
      rw [mode_inline]
      rcases others with same | same | same | same | same <;> simp [same]

/-- Only the marks of blocks have a block's category. -/
theorem IsStep.blockMark {step : Step Bool} (isStep : IsStep atStart head tail step)
    (isBlock : step.category ∈ blockCategories) :
    atStart = true ∧ BlockMark step.category (head :: step.cut.taken) step.cut.rest := by
  cases isStep with
  | blank _ => exact absurd isBlock (by simp [blockCategories])
  | lineBreak _ => exact absurd isBlock (by simp [Step.lineBreak, blockCategories])
  | block isAtStart isMark => exact ⟨isAtStart, isMark⟩
  | inline _ _ =>
      have apart : forall category : Category,
          category ∈ inlineCategories -> category ∉ blockCategories := by decide
      exact absurd isBlock (apart _ (category_inline head tail))

/-! ## Tokens -/

/-- Only blanks lie between these tokens and the line break, or the start, in front of them. -/
def IsLeading (earlier : List Token) : Prop :=
  Since true (fun token => token.category = .newline) (fun token => token.category = .whitespace)
    earlier

theorem exists_step_of_split {earlier later : List Token} {token : Token}
    (split : (scan .normal text).tokens 0 = earlier ++ token :: later) :
    exists atStart head tail, (atStart = true <-> IsLeading earlier) ∧
      scanner.CutsOff text atStart head tail token := by
  have keeps : scanner.KeepsTrack text fun earlier atStart =>
      atStart = true <-> IsLeading earlier := by
    apply Scanner.keepsTrack_since true
    intro atStart head tail token cutsOff
    rw [cutsOff.category_eq]
    exact (isStep_next atStart head tail).mode_iff
  exact keeps.exists_step [] rfl [] since_nil.symm split

/--
A token at the start of a line, or behind blanks there, is a block mark wherever
one begins, and no other token is: neither inside of a line nor behind the fence
that closes on it.
-/
theorem blocks_at_line_starts (text : Text) {earlier later : List Token} {token : Token}
    (split : (scan .normal text).tokens 0 = earlier ++ token :: later) :
    (IsLeading earlier -> forall category front behind, front ++ behind = text.after token.start ->
      BlockMark category front behind -> token.category = category ∧ token.text text = front) ∧
      (token.category ∈ blockCategories ->
        IsLeading earlier ∧
          BlockMark token.category (token.text text) (text.after token.stop)) := by
  rcases exists_step_of_split split with ⟨atStart, head, tail, known, cutsOff⟩
  rw [cutsOff.category_eq, cutsOff.text_eq, cutsOff.behind_eq, cutsOff.rest_eq, ← known]
  constructor
  · rintro rfl category front behind parts isMark
    rcases isMark.exists_cons with ⟨_, rest, rfl⟩
    simp only [List.cons_append, List.cons.injEq] at parts
    rcases parts with ⟨rfl, rfl⟩
    rw [next_of_blockMark isMark]
    exact ⟨rfl, rfl⟩
  · exact (isStep_next atStart head tail).blockMark

/-- The marks of the last line would be two items, one in the other, if it were not a rule. -/
theorem blocks_at_line_starts_of_stars :
    let text : Text := ['*', ' ', '*', '\n', '*', ' ', '*', ' ', '*']
    let front : List Token := [⟨.keywordControl, 0, 1⟩, ⟨.whitespace, 1, 2⟩]
    let behind : List Token := [⟨.newline, 3, 4⟩]
    (scan .normal text).tokens 0 = front ++ ⟨.keyword, 2, 3⟩ :: (behind ++ [⟨.comment, 4, 9⟩]) ∧
      ¬ IsLeading front ∧ IsLeading (front ++ ⟨.keyword, 2, 3⟩ :: behind) ∧
      BlockMark .comment ['*', ' ', '*', ' ', '*'] [] := by
  intro text front behind
  have tokens : (scan .normal text).tokens 0 =
      front ++ ⟨.keyword, 2, 3⟩ :: (behind ++ [⟨.comment, 4, 9⟩]) := by decide +kernel
  have split : (scan .normal text).tokens 0 =
      (front ++ ⟨.keyword, 2, 3⟩ :: behind) ++ [⟨.comment, 4, 9⟩] := tokens
  refine ⟨tokens, fun leading => ?_, (blocks_at_line_starts text split).2 (by decide)⟩
  -- at the start of a line, the star before the line break would be an item's mark
  have isItem : BlockMark .keywordControl ['*'] (text.after 3) :=
    .item rfl (by decide +kernel) (mt isRule_iff.mpr (by decide +kernel))
  have isMark := (blocks_at_line_starts text tokens).1 leading _ _ _ (by decide) isItem
  exact absurd isMark.1 (by decide)

end Markdown
end Lexis
