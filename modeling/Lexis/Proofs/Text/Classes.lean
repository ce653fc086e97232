import Lexis.Text.Classes

namespace Lexis

/-!
Classes of characters that have nothing in common.

Letters and digits are told from white space by the ranges of these properties,
which do not meet.  So a character that begins a word or a number is no blank
(`not_isBlank_of_isWordStart`, `not_isWhiteSpace_of_isDigit`).
-/

namespace Unicode

/-- No range of the one list meets one of the other. -/
def Ranges.AreApart (first second : Ranges) : Prop :=
  forall range, range ∈ first -> forall other, other ∈ second ->
    range.2 < other.1 ∨ other.2 < range.1

instance (first second : Ranges) : Decidable (first.AreApart second) :=
  inferInstanceAs (Decidable (forall range, range ∈ first -> forall other, other ∈ second ->
    range.2 < other.1 ∨ other.2 < range.1))

theorem Ranges.AreApart.contains_eq_false {first second : Ranges} (apart : first.AreApart second)
    {character : Char} (inFirst : first.contains character = true) :
    second.contains character = false := by
  rw [← Bool.not_eq_true]
  intro inSecond
  rcases List.any_eq_true.mp inFirst with ⟨range, member, inRange⟩
  rcases List.any_eq_true.mp inSecond with ⟨other, memberToo, inOther⟩
  simp only [Bool.and_eq_true, decide_eq_true_eq] at inRange inOther
  rcases apart range member other memberToo with below | above
  · omega
  · omega

theorem areApart_whiteSpace : whiteSpaceRanges.AreApart alphabeticRanges := by
  decide +kernel

end Unicode

theorem not_isBlank_of_isWordStart {character : Char} (starts : isWordStart character = true) :
    isBlank character = false := by
  rw [← Bool.not_eq_true]
  intro blank
  have white : Unicode.isWhiteSpace character = true := (Bool.and_eq_true_iff.mp blank).1
  rcases Bool.or_eq_true_iff.mp starts with letter | underscore
  · have notLetter := Unicode.areApart_whiteSpace.contains_eq_false white
    exact absurd (letter.symm.trans notLetter) (by simp)
  · rw [beq_iff_eq.mp underscore] at white
    exact absurd white (by decide)

theorem not_isWhiteSpace_of_isDigit {character : Char} (digit : isDigit character = true) :
    Unicode.isWhiteSpace character = false := by
  have apart : Unicode.Ranges.AreApart [(0x30, 0x39)] Unicode.whiteSpaceRanges := by decide
  rcases Bool.and_eq_true_iff.mp digit with ⟨lower, upper⟩
  have least : 0x30 ≤ character.toNat := of_decide_eq_true lower
  have most : character.toNat ≤ 0x39 := of_decide_eq_true upper
  exact apart.contains_eq_false (by simp [Unicode.Ranges.contains, least, most])

theorem not_isLineBreak_of_isDigit {character : Char} (digit : isDigit character = true) :
    isLineBreak character = false := by
  simp only [isLineBreak, Bool.or_eq_false_iff, beq_eq_false_iff_ne]
  constructor
  · rintro rfl
    exact absurd digit (by decide)
  · rintro rfl
    exact absurd digit (by decide)

end Lexis
