import Lexis.Text.Basic
import Mathlib.Computability.RegularExpressions

namespace Lexis

/-!
Longest matches of regular expressions.

A pattern is matched from the front of a text on, and of all fronts that it
matches the longest counts.  To find it character by character, one has to know
for each character by which pattern the matching goes on (`IsLongestMatch.cons`).
-/

/-- A single character, which is one of the given ones. -/
def anyOf : Text -> RegularExpression Char
  | [] => 0
  | head :: tail => .char head + anyOf tail

/-- The longest front of a text that a pattern matches. -/
structure IsLongestMatch (pattern : RegularExpression Char) (text front : Text) : Prop where
  isPrefix : front <+: text
  isMatch : front ∈ pattern.matches'
  longest : forall other, other <+: text -> other ∈ pattern.matches' ->
    other.length ≤ front.length

variable {character head : Char} {characters front tail : Text}
  {pattern next : RegularExpression Char}

theorem mem_anyOf {text : Text} :
    text ∈ (anyOf characters).matches' <->
      exists character, character ∈ characters ∧ text = [character] := by
  induction characters with
  | nil => simp [anyOf, Language.notMem_zero]
  | cons head tail ih =>
      have single : text ∈ (RegularExpression.char head).matches' <-> text = [head] := Iff.rfl
      simp only [anyOf, RegularExpression.matches'_add, Language.mem_add, single, ih,
        List.mem_cons]
      constructor
      · rintro (same | ⟨character, member, same⟩)
        · exact ⟨head, Or.inl rfl, same⟩
        · exact ⟨character, Or.inr member, same⟩
      · rintro ⟨character, rfl | member, same⟩
        · exact Or.inl same
        · exact Or.inr ⟨character, member, same⟩

theorem cons_mem_anyOf_mul :
    head :: tail ∈ (anyOf characters).matches' * next.matches' <->
      head ∈ characters ∧ tail ∈ next.matches' := by
  rw [Language.mem_mul]
  constructor
  · rintro ⟨first, inFirst, second, inSecond, same⟩
    rcases mem_anyOf.mp inFirst with ⟨character, member, rfl⟩
    rcases List.cons.inj same with ⟨rfl, rfl⟩
    exact ⟨member, inSecond⟩
  · rintro ⟨member, inNext⟩
    exact ⟨[head], mem_anyOf.mpr ⟨head, member, rfl⟩, tail, inNext, rfl⟩

theorem nil_notMem_anyOf_mul : [] ∉ (anyOf characters).matches' * next.matches' := by
  intro member
  rcases Language.mem_mul.mp member with ⟨first, inFirst, second, -, same⟩
  rcases mem_anyOf.mp inFirst with ⟨character, -, rfl⟩
  exact absurd same (by simp)

/-- A repetition is empty or has a first round. -/
theorem matches_star (pattern : RegularExpression Char) :
    pattern.star.matches' = 1 + pattern.matches' * pattern.star.matches' :=
  (Language.one_add_self_mul_kstar_eq_kstar pattern.matches').symm

theorem mem_star_anyOf {text : Text} :
    text ∈ (anyOf characters).star.matches' <->
      forall character, character ∈ text -> character ∈ characters := by
  induction text with
  | nil =>
      rw [matches_star, Language.mem_add, Language.mem_one]
      exact iff_of_true (Or.inl rfl) (by simp)
  | cons head tail ih =>
      rw [matches_star, Language.mem_add, cons_mem_anyOf_mul, ih, List.forall_mem_cons,
        Language.mem_one]
      exact or_iff_right (List.cons_ne_nil head tail)

/-- If only the front of a text matches, nothing longer does. -/
theorem isLongestMatch_nil (text : Text) (matchesNil : [] ∈ pattern.matches')
    (never : forall head tail, head :: tail <+: text -> head :: tail ∉ pattern.matches') :
    IsLongestMatch pattern text [] where
  isPrefix := List.nil_prefix
  isMatch := matchesNil
  longest other inText matched := by
    cases other with
    | nil => exact Nat.le_refl 0
    | cons head tail => exact absurd matched (never head tail inText)

theorem isLongestMatch_of_nil (matchesNil : [] ∈ pattern.matches') :
    IsLongestMatch pattern [] [] :=
  isLongestMatch_nil [] matchesNil fun _ _ inText => absurd (List.prefix_nil.mp inText) (by simp)

/-- A pattern matches one character more than the pattern of what may follow it. -/
theorem IsLongestMatch.cons (longest : IsLongestMatch next tail front)
    (goesOn : forall rest, rest <+: tail -> (head :: rest ∈ pattern.matches' <-> rest ∈ next.matches')) :
    IsLongestMatch pattern (head :: tail) (head :: front) where
  isPrefix := List.cons_prefix_cons.mpr ⟨rfl, longest.isPrefix⟩
  isMatch := (goesOn front longest.isPrefix).mpr longest.isMatch
  longest other inText matched := by
    cases other with
    | nil => exact Nat.zero_le _
    | cons first rest =>
        rcases List.cons_prefix_cons.mp inText with ⟨rfl, inTail⟩
        exact Nat.succ_le_succ (longest.longest rest inTail ((goesOn rest inTail).mp matched))

/-- Patterns with the same matches among the fronts of a text have the same longest one. -/
theorem IsLongestMatch.congr {text : Text} (longest : IsLongestMatch next text front)
    (same : forall other, other <+: text -> (other ∈ pattern.matches' <-> other ∈ next.matches')) :
    IsLongestMatch pattern text front where
  isPrefix := longest.isPrefix
  isMatch := (same front longest.isPrefix).mpr longest.isMatch
  longest other inText matched := longest.longest other inText ((same other inText).mp matched)

/-- A longest match that is not empty is one of those that begin with a certain character. -/
theorem IsLongestMatch.begins (longest : IsLongestMatch pattern (head :: tail) front)
    (inside : head ∈ characters) (matchesNil : [] ∈ next.matches')
    (goesOn : forall rest, head :: rest ∈ pattern.matches' <-> rest ∈ next.matches') :
    IsLongestMatch (anyOf characters * next) (head :: tail) front where
  isPrefix := longest.isPrefix
  isMatch := by
    have single : [head] <+: head :: tail := List.cons_prefix_cons.mpr ⟨rfl, List.nil_prefix⟩
    have nonempty := longest.longest [head] single ((goesOn []).mpr matchesNil)
    cases front with
    | nil => exact absurd nonempty (by simp)
    | cons first rest =>
        rcases List.cons_prefix_cons.mp longest.isPrefix with ⟨rfl, -⟩
        exact cons_mem_anyOf_mul.mpr ⟨inside, (goesOn rest).mp longest.isMatch⟩
  longest other inText matched := by
    cases other with
    | nil => exact Nat.zero_le _
    | cons first rest =>
        rcases List.cons_prefix_cons.mp inText with ⟨rfl, -⟩
        have inNext := (cons_mem_anyOf_mul.mp matched).2
        exact longest.longest (first :: rest) inText ((goesOn rest).mpr inNext)

end Lexis
