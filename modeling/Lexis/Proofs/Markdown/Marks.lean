import Lexis.Markdown.Block
import Lexis.Proofs.Text.Classes
import Lexis.Proofs.Text.MaximalRun

namespace Lexis
namespace Markdown

/-!
The marks that blocks of Markdown begin with.

Each mark is told by what it takes and what it leaves (`BlockMark`), and these are
the marks that are found (`blockMark_of_blockMark?`, `blockMark?_of_blockMark`).
Where a line begins with a mark of two kinds, it is a rule if it can be one.
-/

variable {head : Char} {tail text front behind rest : Text} {category : Category} {cut : Cut}

/-- A line of at least three rule marks, with blanks between and behind them. -/
structure IsRuleLine (line : Text) : Prop where
  inside : forall character, character ∈ line ->
    isRuleMark character = true ∨ isBlank character = true
  three_le : 3 ≤ line.countP isRuleMark

/-- The text up to the end of its first line is a rule. -/
def BeginsRule (text : Text) : Prop :=
  exists line behind, line ++ behind = text ∧ IsRestOfLine line behind ∧ IsRuleLine line

/-- The marks that blocks begin with, each with its category and the text behind it. -/
inductive BlockMark : Category -> Text -> Text -> Prop
  | heading {rest behind : Text} (line : IsRestOfLine rest behind) :
      BlockMark .keywordDeclaration ('#' :: rest) behind
  | quotation {rest behind : Text} (line : IsRestOfLine rest behind) :
      BlockMark .comment ('>' :: rest) behind
  | rule {mark : Char} {rest behind : Text} (isMark : isRuleMark mark = true)
      (line : IsRestOfLine rest behind) (isRule : IsRuleLine (mark :: rest)) :
      BlockMark .comment (mark :: rest) behind
  | item {mark : Char} {behind : Text} (isMark : isItemMark mark = true)
      (spaced : behind.head?.any Unicode.isWhiteSpace = true)
      (notRule : ¬ BeginsRule (mark :: behind)) : BlockMark .keywordControl [mark] behind
  | ordinal {first : Char} {digits behind : Text}
      (areDigits : forall digit, digit ∈ first :: digits -> isDigit digit = true) :
      BlockMark .keywordControl (first :: (digits ++ ['.'])) behind

theorem ruleMark_cases (isMark : isRuleMark head = true) :
    head = '-' ∨ head = '*' ∨ head = '_' := by
  simpa [isRuleMark, or_assoc] using isMark

theorem itemMark_cases (isMark : isItemMark head = true) :
    head = '-' ∨ head = '*' ∨ head = '+' := by
  simpa [isItemMark, or_assoc] using isMark

theorem ne_mark_of_isDigit (digit : isDigit head = true) :
    head ≠ '#' ∧ head ≠ '>' ∧ isRuleMark head = false ∧ isItemMark head = false := by
  refine ⟨?_, ?_, Bool.eq_false_iff.mpr fun isMark => ?_, Bool.eq_false_iff.mpr fun isMark => ?_⟩
  · rintro rfl
    exact absurd digit (by decide)
  · rintro rfl
    exact absurd digit (by decide)
  · rcases ruleMark_cases isMark with rfl | rfl | rfl <;> exact absurd digit (by decide)
  · rcases itemMark_cases isMark with rfl | rfl | rfl <;> exact absurd digit (by decide)

/-- No mark of a block is white space. -/
theorem BlockMark.not_blank (isMark : BlockMark category (head :: rest) behind) :
    isBlank head = false ∧ isLineBreak head = false := by
  cases isMark with
  | heading _ | quotation _ => decide
  | rule isMark _ _ => rcases ruleMark_cases isMark with rfl | rfl | rfl <;> decide
  | item isMark _ _ => rcases itemMark_cases isMark with rfl | rfl | rfl <;> decide
  | ordinal areDigits =>
      have digit := areDigits head (by simp)
      exact ⟨by simp [isBlank, not_isWhiteSpace_of_isDigit digit], not_isLineBreak_of_isDigit digit⟩

theorem BlockMark.inLine (isMark : BlockMark category front behind) {character : Char}
    (member : character ∈ front) : isLineBreak character = false := by
  cases isMark with
  | heading line | quotation line =>
      rcases List.mem_cons.mp member with rfl | inRest
      · decide
      · exact line.inLine inRest
  | rule isMark line _ =>
      rcases List.mem_cons.mp member with rfl | inRest
      · rcases ruleMark_cases isMark with rfl | rfl | rfl <;> decide
      · exact line.inLine inRest
  | item isMark _ _ =>
      rw [List.mem_singleton.mp member]
      rcases itemMark_cases isMark with rfl | rfl | rfl <;> decide
  | ordinal areDigits =>
      rw [← List.cons_append] at member
      rcases List.mem_append.mp member with digit | point
      · exact not_isLineBreak_of_isDigit (areDigits character digit)
      · rw [List.mem_singleton.mp point]
        decide

theorem isRule_iff_line : isRule text = true <-> IsRuleLine (Cut.toLineEnd text).taken := by
  simp only [isRule, Bool.and_eq_true, List.all_eq_true, Bool.or_eq_true, decide_eq_true_eq]
  exact ⟨fun ⟨inside, three⟩ => ⟨inside, three⟩, fun ⟨inside, three⟩ => ⟨inside, three⟩⟩

theorem isRule_iff : isRule text = true <-> BeginsRule text := by
  rw [isRule_iff_line]
  constructor
  · exact fun isRule => ⟨_, _, Cut.whole_toLineEnd text, isRestOfLine_toLineEnd text, isRule⟩
  · rintro ⟨line, behind, rfl, isLine, isRule⟩
    rw [Cut.toLineEnd, isLine.run_eq]
    exact isRule

theorem toLineEnd_cons (inLine : isLineBreak head = false) (tail : Text) :
    Cut.toLineEnd (head :: tail) = (Cut.toLineEnd tail).push head := by
  simp [Cut.toLineEnd, Cut.run, Cut.push, inLine]

/-- An ordinal is a number with a full stop directly behind it. -/
theorem ordinal?_eq_some_iff : ordinal? tail = some cut <->
    exists rest, (Cut.run isDigit tail).rest = '.' :: rest ∧
      cut = { taken := (Cut.run isDigit tail).taken ++ ['.'], rest := rest } := by
  fun_cases ordinal? tail with
  | case1 digits rest same =>
      rw [Option.some.injEq, show Cut.run isDigit tail = digits from rfl, same]
      constructor
      · rintro rfl
        exact ⟨rest, rfl, rfl⟩
      · rintro ⟨_, sameRest, rfl⟩
        rcases List.cons.inj sameRest with ⟨-, rfl⟩
        rfl
  | case2 digits other =>
      apply iff_of_false (by simp)
      rintro ⟨rest, same, -⟩
      exact other rest same

theorem blockMark_of_blockMark? (found : blockMark? head tail = some (category, cut)) :
    BlockMark category (head :: cut.taken) cut.rest := by
  have line := isRestOfLine_toLineEnd tail
  simp only [blockMark?] at found
  split at found
  · next same =>
      subst same
      rcases Prod.mk.inj (Option.some.inj found) with ⟨rfl, rfl⟩
      exact .heading line
  split at found
  · next same =>
      subst same
      rcases Prod.mk.inj (Option.some.inj found) with ⟨rfl, rfl⟩
      exact .quotation line
  split at found
  · next both =>
      rcases Bool.and_eq_true_iff.mp both with ⟨isMark, isRule⟩
      have inLine : isLineBreak head = false := by
        rcases ruleMark_cases isMark with rfl | rfl | rfl <;> decide
      rw [isRule_iff_line, toLineEnd_cons inLine] at isRule
      rcases Prod.mk.inj (Option.some.inj found) with ⟨rfl, rfl⟩
      exact .rule isMark line isRule
  next noRule =>
  split at found
  · next both =>
      rcases Bool.and_eq_true_iff.mp both with ⟨isMark, spaced⟩
      rcases Prod.mk.inj (Option.some.inj found) with ⟨rfl, rfl⟩
      refine .item isMark spaced fun begins => noRule ?_
      have inLine : isLineBreak head = false ∧ isBlank head = false := by
        rcases itemMark_cases isMark with rfl | rfl | rfl <;> decide
      have isRule := isRule_iff.mpr begins
      have line := isRule_iff_line.mp isRule
      rw [toLineEnd_cons inLine.1] at line
      have isRuleMark := (line.inside head (by simp [Cut.push])).resolve_right (by simp [inLine])
      exact Bool.and_eq_true_iff.mpr ⟨isRuleMark, isRule⟩
  split at found
  · next digit =>
      rcases Option.map_eq_some_iff.mp found with ⟨mark, isOrdinal, same⟩
      rcases Prod.mk.inj same with ⟨rfl, rfl⟩
      rcases ordinal?_eq_some_iff.mp isOrdinal with ⟨rest, -, rfl⟩
      exact .ordinal (List.forall_mem_cons.mpr ⟨digit, (isMaximalRun_run isDigit tail).inside⟩)
  · exact absurd found (by simp)

theorem blockMark?_of_blockMark (isMark : BlockMark category (head :: rest) behind) :
    blockMark? head (rest ++ behind) = some (category, { taken := rest, rest := behind }) := by
  cases isMark with
  | heading line =>
      rw [blockMark?, if_pos rfl, Cut.toLineEnd, line.run_eq]
  | quotation line =>
      rw [blockMark?, if_neg (by decide), if_pos rfl, Cut.toLineEnd, line.run_eq]
  | rule isMark line isRule =>
      have inLine : head ≠ '#' ∧ head ≠ '>' ∧ isLineBreak head = false := by
        rcases ruleMark_cases isMark with rfl | rfl | rfl <;> decide
      have begins : Markdown.isRule (head :: (rest ++ behind)) = true :=
        isRule_iff.mpr ⟨head :: rest, behind, rfl, line.cons (by simp [inLine]), isRule⟩
      rw [blockMark?, if_neg inLine.1, if_neg inLine.2.1, if_pos (by simp [isMark, begins]),
        Cut.toLineEnd, line.run_eq]
  | item isMark spaced notRule =>
      have inLine : head ≠ '#' ∧ head ≠ '>' := by
        rcases itemMark_cases isMark with rfl | rfl | rfl <;> decide
      have noRule := mt isRule_iff.mp notRule
      rw [List.nil_append, blockMark?, if_neg inLine.1, if_neg inLine.2, if_neg (by simp [noRule]),
        if_pos (by simp [isMark, spaced]), Cut.stop]
  | @ordinal _ digits _ areDigits =>
      rcases ne_mark_of_isDigit (areDigits head (by simp)) with ⟨notNumber, notAngle, noRule, noItem⟩
      have isRun : IsMaximalRun isDigit digits ('.' :: behind) :=
        ⟨fun digit member => areDigits digit (by simp [member]), by simp [isDigit]⟩
      have isOrdinal : ordinal? (digits ++ ['.'] ++ behind) =
          some { taken := digits ++ ['.'], rest := behind } := by
        rw [List.append_assoc, ordinal?_eq_some_iff]
        exact ⟨behind, by simp [isRun.run_eq]⟩
      rw [blockMark?, if_neg notNumber, if_neg notAngle, if_neg (by simp [noRule]),
        if_neg (by simp [noItem]), if_pos (areDigits head (by simp)), isOrdinal, Option.map_some]

end Markdown
end Lexis
