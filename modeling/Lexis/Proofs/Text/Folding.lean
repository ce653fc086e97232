import Lexis.Path
import Lexis.Text.Folding

namespace Lexis

/-!
What folding keeps.

A text is folded once and for all, and no letter is folded to a slash or a dot.
So whatever is asked of a file name without regard to case can be asked of its
folded form.
-/

theorem toNat_foldCase (character : Char) :
    (foldCase character).toNat =
      if 65 ≤ character.toNat ∧ character.toNat ≤ 90 then character.toNat + 32
      else character.toNat := by
  by_cases capital : 65 ≤ character.toNat ∧ character.toNat ≤ 90
  · have folded : (foldCase character).val = character.val + 32 :=
      congrArg Char.val (dif_pos capital)
    rw [if_pos capital, Char.toNat, folded, UInt32.toNat_add]
    exact Nat.mod_eq_of_lt (Nat.lt_of_le_of_lt (Nat.add_le_add_right capital.2 32) (by decide))
  · rw [if_neg capital]
    exact congrArg Char.toNat (dif_neg capital)

theorem foldCase_foldCase (character : Char) :
    foldCase (foldCase character) = foldCase character := by
  refine Char.toNat_inj.mp ?_
  rw [toNat_foldCase (foldCase character), toNat_foldCase]
  by_cases capital : 65 ≤ character.toNat ∧ character.toNat ≤ 90
  · rw [if_pos capital, if_neg (by omega)]
  · rw [if_neg capital, if_neg capital]

/-- A character that is no ASCII letter is the folded form of itself alone. -/
theorem foldCase_eq_iff {character mark : Char} (notLetter : mark.isAlpha = false) :
    foldCase character = mark <-> character = mark := by
  have others : mark.isUpper = false ∧ mark.isLower = false := Bool.or_eq_false_iff.mp notLetter
  have notCapital : ¬ (65 ≤ mark.toNat ∧ mark.toNat ≤ 90) := of_decide_eq_false others.1
  have notSmall : ¬ (97 ≤ mark.toNat ∧ mark.toNat ≤ 122) := fun small =>
    Bool.false_ne_true (others.2.symm.trans
      (Bool.and_eq_true_iff.mpr ⟨decide_eq_true small.1, decide_eq_true small.2⟩))
  rw [← Char.toNat_inj, ← Char.toNat_inj, toNat_foldCase]
  by_cases capital : 65 ≤ character.toNat ∧ character.toNat ≤ 90
  · rw [if_pos capital]
    omega
  · rw [if_neg capital]

/-- A character that is no ASCII letter is found in a folded text just where it is in the text. -/
theorem foldCase_beq {mark : Char} (notLetter : mark.isAlpha = false) (character : Char) :
    (foldCase character == mark) = (character == mark) := by
  rw [Bool.eq_iff_iff, beq_iff_eq, beq_iff_eq, foldCase_eq_iff notLetter]

namespace Text

theorem folded_folded (text : Text) : text.folded.folded = text.folded := by
  rw [folded, folded, List.map_map]
  exact List.map_congr_left fun character _ => foldCase_foldCase character

theorem folded_eq_iff {text mark : Text}
    (notLetters : forall character, character ∈ mark -> character.isAlpha = false) :
    text.folded = mark <-> text = mark := by
  induction text generalizing mark with
  | nil => rfl
  | cons head tail ih =>
      cases mark with
      | nil => simp [folded]
      | cons first rest =>
          rcases List.forall_mem_cons.mp notLetters with ⟨notLetter, others⟩
          have same := ih others
          rw [folded] at same ⊢
          rw [List.map_cons, List.cons.injEq, List.cons.injEq, foldCase_eq_iff notLetter, same]

end Text

/-- The answer to a text is the answer to its folded form. -/
def IgnoresCase {Answer : Type} (ask : Text -> Answer) : Prop :=
  forall text, ask text.folded = ask text

theorem IgnoresCase.bind_map_folded {Answer : Type} {ask : Text -> Option Answer}
    (ignoresCase : IgnoresCase ask) (name : Option Text) :
    (name.map Text.folded).bind ask = name.bind ask := by
  have folds : ask ∘ Text.folded = ask := funext ignoresCase
  rw [Option.bind_map, folds]

/-- Texts that are equal but for case have the same answer. -/
theorem IgnoresCase.bind_eq {Answer : Type} {ask : Text -> Option Answer}
    (ignoresCase : IgnoresCase ask) {first second : Option Text}
    (same : first.map Text.folded = second.map Text.folded) :
    first.bind ask = second.bind ask := by
  rw [← ignoresCase.bind_map_folded first, same, ignoresCase.bind_map_folded second]

theorem ignoresCase_sameFolded (known : Text) : IgnoresCase (Text.sameFolded known) := by
  intro text
  rw [Text.sameFolded, Text.sameFolded, Text.folded_folded]

namespace Path

/-- Folding a file name folds its extension, for it moves no dot. -/
theorem extensionOf?_folded (name : Text) :
    extensionOf? name.folded = (extensionOf? name).map Text.folded := by
  have sameTest : (fun character => decide (character ≠ '.')) ∘ foldCase =
      fun character => decide (character ≠ '.') := by
    funext character
    exact decide_eq_decide.mpr (not_congr (foldCase_eq_iff rfl))
  simp only [extensionOf?, Text.folded]
  rw [← List.map_reverse, List.dropWhile_map, List.takeWhile_map, sameTest]
  cases name.reverse.dropWhile fun character => decide (character ≠ '.') with
  | nil => rfl
  | cons dot stem =>
      rw [List.map_cons]
      simp only [List.map_eq_nil_iff, ← List.map_reverse]
      split
      · rfl
      · rfl

/-- Paths whose last components are equal but for case have file names that are, or none. -/
theorem fileName?_map_folded {first second : Text}
    (same : (components first).getLast?.map Text.folded =
      (components second).getLast?.map Text.folded) :
    (fileName? first).map Text.folded = (fileName? second).map Text.folded := by
  cases firstLast : (components first).getLast? with
  | none =>
      rw [firstLast, Option.map_none, eq_comm, Option.map_eq_none_iff] at same
      rw [fileName?, fileName?, firstLast, same]
  | some name =>
      rw [firstLast, Option.map_some, eq_comm, Option.map_eq_some_iff] at same
      rcases same with ⟨other, secondLast, folds⟩
      have dots : forall character, character ∈ ['.', '.'] -> character.isAlpha = false := by
        intro character member
        obtain rfl : character = '.' := by simpa using member
        rfl
      have parent : name = ['.', '.'] <-> other = ['.', '.'] := calc
        name = ['.', '.'] <-> name.folded = ['.', '.'] := (Text.folded_eq_iff dots).symm
        _ <-> other.folded = ['.', '.'] := by rw [folds]
        _ <-> other = ['.', '.'] := Text.folded_eq_iff dots
      rw [fileName?, fileName?, firstLast, secondLast]
      simp only [parent]
      split
      · rfl
      · rw [Option.map_some, Option.map_some, folds]

end Path

end Lexis
