import Lexis.Proofs.Token.Partition
import Lexis.Token.Partition

namespace Lexis
namespace Token

/-!
The lists of tokens that the checker accepts.

`Token.partition` goes from token to token and compares each start with the stop
before it.  It takes a token for empty only if the two are equal, so that a token
may also lead backwards, and the next one goes on from there.  What is accepted
is therefore a chain (`Chains`), and a partition of the source just if no token
of the chain is inverted (`partition_eq_ok_iff`).
-/

/-- Each token begins where the one before it stops, and stops elsewhere, in front or behind. -/
def Chains : Nat -> Nat -> List Token -> Prop
  | start, stop, [] => start = stop
  | start, stop, token :: tokens =>
      token.start = start ∧ token.start ≠ token.stop ∧ Chains token.stop stop tokens

variable {base start stop : Nat} {source : Text} {tokens : List Token}

/-- Tokens lie side by side if they make a chain and none of them is inverted. -/
theorem tiles_iff_chains :
    Tiles start stop tokens ↔
      Chains start stop tokens ∧ forall token, token ∈ tokens -> token.start ≤ token.stop := by
  induction tokens generalizing start with
  | nil => simp [Tiles, Chains]
  | cons token tokens ih =>
      rw [Tiles, Chains, ih, List.forall_mem_cons]
      constructor
      · rintro ⟨rfl, nonempty, chain, ordered⟩
        exact ⟨⟨rfl, Nat.ne_of_lt nonempty, chain⟩, Nat.le_of_lt nonempty, ordered⟩
      · rintro ⟨⟨rfl, nonempty, chain⟩, forwards, ordered⟩
        exact ⟨rfl, Nat.lt_of_le_of_ne forwards nonempty, chain, ordered⟩

/-- Where the first of the tokens begins and all of them stop, all of them begin too. -/
theorem Tiles.isBoundary_start (tiles : Tiles start stop tokens) (first : source.IsBoundary start)
    (stops : forall token, token ∈ tokens -> source.IsBoundary token.stop) :
    forall token, token ∈ tokens -> source.IsBoundary token.start := by
  induction tokens generalizing start with
  | nil => exact fun _ member => absurd member (by simp)
  | cons token tokens ih =>
      rcases tiles with ⟨rfl, -, rest⟩
      rcases List.forall_mem_cons.mp stops with ⟨here, behind⟩
      exact List.forall_mem_cons.mpr ⟨first, ih rest here behind⟩

/-- A partition of a whole text, by the stops of its tokens alone. -/
theorem partitions_iff_tiles :
    Partitions 0 source tokens ↔
      Tiles 0 source.size tokens ∧
        forall token, token ∈ tokens -> source.IsBoundary token.stop := by
  constructor
  · intro partitions
    have tiles := partitions.tiles
    rw [Nat.zero_add] at tiles
    exact ⟨tiles, fun token member => (partitions.boundaries token member).2⟩
  · rintro ⟨tiles, stops⟩
    have starts := tiles.isBoundary_start (by simp [Text.IsBoundary]) stops
    constructor
    · rwa [Nat.zero_add]
    · exact fun token member => ⟨starts token member, stops token member⟩

/-- A token passes all four tests, and then the others are looked at. -/
theorem partitionFrom_cons_eq_ok_iff {index expected : Nat} {token : Token} :
    partitionFrom source index expected (token :: tokens) = .ok () ↔
      token.start = expected ∧ token.start ≠ token.stop ∧ source.IsBoundary token.stop ∧
        partitionFrom source (index + 1) token.stop tokens = .ok () := by
  rw [partitionFrom]
  split
  · next misplaced => simp [misplaced]
  next placed =>
  split
  · next empty => simp_all [isEmpty]
  next nonempty =>
  split
  · next outside =>
      have noBoundary : ¬ source.IsBoundary token.stop :=
        fun boundary => Nat.not_lt_of_le boundary.le_size outside
      simp [noBoundary]
  split
  · next boundary => simp_all [isEmpty]
  · next noBoundary => simp [noBoundary]

theorem partitionFrom_eq_ok_iff {index expected : Nat} :
    partitionFrom source index expected tokens = .ok () ↔
      Chains expected source.size tokens ∧
        forall token, token ∈ tokens -> source.IsBoundary token.stop := by
  induction tokens generalizing index expected with
  | nil => simp [partitionFrom, Chains]
  | cons token tokens ih =>
      rw [partitionFrom_cons_eq_ok_iff, ih, Chains, List.forall_mem_cons]
      constructor
      · rintro ⟨placed, nonempty, boundary, chain, stops⟩
        exact ⟨⟨placed, nonempty, chain⟩, boundary, stops⟩
      · rintro ⟨⟨placed, nonempty, chain⟩, boundary, stops⟩
        exact ⟨placed, nonempty, boundary, chain, stops⟩

/--
The checker accepts the chains that cover the source and stop between its
characters.  Among them, the partitions are those without inverted tokens.
-/
theorem partition_eq_ok_iff (source : Text) (tokens : List Token) :
    (partition source tokens = .ok () ↔
      Chains 0 source.size tokens ∧
        forall token, token ∈ tokens -> source.IsBoundary token.stop) ∧
      (Partitions 0 source tokens ↔
        partition source tokens = .ok () ∧
          forall token, token ∈ tokens -> token.start ≤ token.stop) := by
  have accepted : partition source tokens = .ok () ↔
      Chains 0 source.size tokens ∧
        forall token, token ∈ tokens -> source.IsBoundary token.stop :=
    partitionFrom_eq_ok_iff
  refine ⟨accepted, ?_⟩
  rw [accepted, partitions_iff_tiles, tiles_iff_chains, and_right_comm]

/-- A token that goes back over the one before it is accepted, if another goes over it again. -/
theorem partition_of_inverted :
    let source : Text := ['a']
    let tokens : List Token := [⟨.plain, 0, 1⟩, ⟨.plain, 1, 0⟩, ⟨.plain, 0, 1⟩]
    partition source tokens = .ok () ∧ ¬ Partitions 0 source tokens := by
  intro source tokens
  have accepted : partition source tokens = .ok () := rfl
  have overlap : ¬ Tiles 0 (0 + source.size) tokens := by simp [Tiles, tokens]
  exact ⟨accepted, fun partitions => overlap partitions.tiles⟩

end Token
end Lexis
