import Lexis.Grammar.Compiled
import Lexis.Grammar.Declarative
import Lexis.Grammar.Scripted
import Mathlib.Order.MinMax

namespace Lexis
namespace Keywords

/-!
Words of two tables put together.

Of the roles that list a word, it has the one of highest priority
(`highest_of_role?`).  In the union of two tables it therefore has the higher of
the two categories that they give it (`classify_union`).  Hence the order in
which tables are put together means nothing, and a grammar that adds words to
those of another one takes none of these down (`union_keeps_priority`).
-/

/-- The place of a word's category in the order of priority; a word without one comes last. -/
def rank : Option Category -> Nat
  | some .keywordDeclaration => 0
  | some .keywordControl => 1
  | some .keywordOperator => 2
  | some .keywordModifier => 3
  | some .keyword => 4
  | some .boolean => 5
  | some .nullLiteral => 6
  | some .type => 7
  | _ => 8

/-- The one of higher priority of the categories that two tables give a word. -/
def higher (first second : Option Category) : Option Category :=
  if rank first ≤ rank second then first else second

variable {keywords other : Keywords} {word : String} {role : Role}

/-! ## The order of roles -/

theorem rank_category_lt (role : Role) : rank (some role.category) < rank .none := by
  cases role <;> decide

theorem rank_category_injective {first second : Role}
    (same : rank (some first.category) = rank (some second.category)) : first = second := by
  cases first <;> cases second <;> first | rfl | exact absurd same (by decide)

theorem rank_pairwise_all : Role.all.Pairwise fun first second =>
    rank (some first.category) < rank (some second.category) := by
  decide

/-! ## The role of a word -/

/-- The role of a word lists it, and none of higher priority does. -/
theorem highest_of_role? (found : keywords.role? word = some role) :
    word ∈ keywords role ∧ forall another, word ∈ keywords another ->
      rank (some role.category) ≤ rank (some another.category) := by
  rcases List.find?_eq_some_iff_append.mp found with ⟨lists, before, behind, parts, unlisted⟩
  refine ⟨List.contains_iff_mem.mp lists, fun another member => ?_⟩
  have inAll := another.mem_all
  have ordered := rank_pairwise_all
  rw [parts] at inAll ordered
  rcases List.mem_append.mp inAll with earlier | later
  · have noMember := unlisted another earlier
    rw [List.contains_iff_mem.mpr member] at noMember
    exact absurd noMember (by decide)
  · rcases List.mem_cons.mp later with rfl | later
    · exact Nat.le_refl _
    · exact Nat.le_of_lt ((List.pairwise_cons.mp (List.pairwise_append.mp ordered).2.1).1 _ later)

/-- Any role at all that lists the word gives it one. -/
theorem role?_ne_none (member : word ∈ keywords role) : keywords.role? word ≠ .none := by
  intro missing
  have unlisted := List.find?_eq_none.mp missing role role.mem_all
  exact unlisted (List.contains_iff_mem.mpr member)

/-- Two tables that give words the same rank give them the same category. -/
theorem classify_eq_of_rank_eq {first second : String}
    (same : rank (keywords.classify first) = rank (other.classify second)) :
    keywords.classify first = other.classify second := by
  simp only [classify] at same ⊢
  cases firstRole : keywords.role? first with
  | none =>
      cases secondRole : other.role? second with
      | none => rfl
      | some role =>
          rw [firstRole, secondRole] at same
          exact absurd same (Nat.ne_of_gt (rank_category_lt role))
  | some role =>
      cases secondRole : other.role? second with
      | none =>
          rw [firstRole, secondRole] at same
          exact absurd same (Nat.ne_of_lt (rank_category_lt role))
      | some another =>
          rw [firstRole, secondRole] at same
          rw [rank_category_injective same]

/-- A word ranks as high as the roles that list it. -/
theorem rank_classify_le_iff {limit : Nat} (listed : limit < rank .none) :
    rank (keywords.classify word) ≤ limit <->
      exists role, word ∈ keywords role ∧ rank (some role.category) ≤ limit := by
  rw [classify]
  constructor
  · intro high
    cases found : keywords.role? word with
    | none =>
        rw [found] at high
        exact absurd high (Nat.not_le_of_lt listed)
    | some role =>
        rw [found] at high
        exact ⟨role, (highest_of_role? found).1, high⟩
  · rintro ⟨role, member, high⟩
    cases found : keywords.role? word with
    | none => exact absurd found (role?_ne_none member)
    | some highest => exact Nat.le_trans ((highest_of_role? found).2 role member) high

theorem rank_classify_le (keywords : Keywords) (word : String) :
    rank (keywords.classify word) ≤ rank .none := by
  rw [classify]
  cases keywords.role? word with
  | none => exact Nat.le_refl _
  | some role => exact Nat.le_of_lt (rank_category_lt role)

/-! ## Unions -/

/-- A word is listed by a role of the union if it is by that role of one of the tables. -/
theorem rank_classify_union (first second : Keywords) (word : String) :
    rank ((first.union second).classify word) =
      min (rank (first.classify word)) (rank (second.classify word)) := by
  apply eq_of_forall_ge_iff
  intro limit
  by_cases listed : limit < rank .none
  · rw [min_le_iff, rank_classify_le_iff listed, rank_classify_le_iff listed,
      rank_classify_le_iff listed, ← exists_or]
    refine exists_congr fun role => ?_
    rw [union, List.mem_append, or_and_right]
  · have all : forall keywords : Keywords, rank (keywords.classify word) ≤ limit :=
      fun keywords => Nat.le_trans (rank_classify_le keywords word) (Nat.le_of_not_lt listed)
    exact iff_of_true (all _) (min_le_of_left_le (all first))

theorem classify_union (first second : Keywords) (word : String) :
    (first.union second).classify word =
      higher (first.classify word) (second.classify word) := by
  have least := rank_classify_union first second word
  rw [higher]
  split
  · next high =>
      rw [Nat.min_eq_left high] at least
      exact classify_eq_of_rank_eq least
  · next low =>
      rw [Nat.min_eq_right (Nat.le_of_not_le low)] at least
      exact classify_eq_of_rank_eq least

/--
The union of two tables gives every word the higher of the categories that the
two give it.  As far as words are told apart by it, unions may be formed in any
order and repeated.  No word of a table ranks lower in what is derived from it by
a union, as are the tables of those built-in grammars that extend another one.
-/
theorem union_keeps_priority (first second third : Keywords) (word : String) :
    (first.union second).classify word = higher (first.classify word) (second.classify word) ∧
      ((first.union second).union third).classify word =
        (first.union (second.union third)).classify word ∧
      (first.union second).classify word = (second.union first).classify word ∧
      (first.union first).classify word = first.classify word ∧
      rank ((first.union second).classify word) ≤ rank (first.classify word) ∧
      rank (Grammar.cpp.keywords.classify word) ≤ rank (Grammar.c.keywords.classify word) ∧
      rank (Grammar.typeScript.keywords.classify word) ≤
        rank (Grammar.javaScript.keywords.classify word) ∧
      rank (Grammar.scss.keywords.classify word) ≤ rank (Grammar.css.keywords.classify word) := by
  have derived : forall base additions : Keywords,
      rank ((base.union additions).classify word) ≤ rank (base.classify word) := by
    intro base additions
    rw [rank_classify_union]
    exact Nat.min_le_left _ _
  refine ⟨classify_union first second word, ?_, ?_, ?_, derived _ _, derived _ _, derived _ _,
    derived _ _⟩
  · apply classify_eq_of_rank_eq
    rw [rank_classify_union, rank_classify_union, rank_classify_union, rank_classify_union,
      Nat.min_assoc]
  · apply classify_eq_of_rank_eq
    rw [rank_classify_union, rank_classify_union, Nat.min_comm]
  · apply classify_eq_of_rank_eq
    rw [rank_classify_union, Nat.min_self]

end Keywords
end Lexis
