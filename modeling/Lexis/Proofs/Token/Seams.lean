import Lexis.Proofs.Search
import Lexis.Proofs.Token.Tiles

namespace Lexis
namespace Token

/-!
Where tokens are divided.

Tokens that lie one after the other begin and end in their order.  So those that
end before an offset lie in front of the others (`Tiles.exists_ended`), and so do
those that begin before it (`Tiles.exists_begun`), and a search by halving finds
both seams.  What is taken of the tokens at such seams is what a look at every
token would take: those that overlap a span (`Tiles.between_seams`), and what lies
on either side of an offset (`Tiles.before_eq`, `Tiles.after_eq`).
-/

variable {start stop : Nat} {tokens : List Token}

/-- Of two tokens, the earlier one ends before the later one begins, and neither is empty. -/
theorem Tiles.pairwise (tiles : Tiles start stop tokens) :
    tokens.Pairwise fun earlier later =>
      earlier.start < earlier.stop ∧ earlier.stop ≤ later.start ∧ later.start < later.stop := by
  induction tokens generalizing start with
  | nil => exact List.Pairwise.nil
  | cons token tokens ih =>
      rcases tiles with ⟨rfl, nonempty, rest⟩
      refine List.pairwise_cons.mpr ⟨fun later member => ?_, ih rest⟩
      rcases rest.bounds member with ⟨behind, laterNonempty, -⟩
      exact ⟨nonempty, behind, laterNonempty⟩

theorem Tiles.exists_ended (tiles : Tiles start stop tokens) (offset : Nat) :
    exists ended reaching, ended ++ reaching = tokens ∧
      partitionPoint (fun token => token.stop ≤ offset) tokens = ended.length ∧
      (forall token, token ∈ ended -> token.stop ≤ offset) ∧
      (forall token, token ∈ reaching -> offset < token.stop) := by
  have inOrder : tokens.Pairwise fun earlier later =>
      decide (later.stop ≤ offset) = true -> decide (earlier.stop ≤ offset) = true := by
    refine tiles.pairwise.imp fun ordered passes => ?_
    have ends := of_decide_eq_true passes
    exact decide_eq_true (by omega)
  rcases exists_partitionPoint inOrder with ⟨ended, reaching, parts, point, passed, failed⟩
  exact ⟨ended, reaching, parts, point,
    fun token member => of_decide_eq_true (passed token member),
    fun token member => Nat.lt_of_not_le (of_decide_eq_false (failed token member))⟩

theorem Tiles.exists_begun (tiles : Tiles start stop tokens) (offset : Nat) :
    exists begun later, begun ++ later = tokens ∧
      partitionPoint (fun token => token.start < offset) tokens = begun.length ∧
      (forall token, token ∈ begun -> token.start < offset) ∧
      (forall token, token ∈ later -> offset ≤ token.start) := by
  have inOrder : tokens.Pairwise fun earlier later =>
      decide (later.start < offset) = true -> decide (earlier.start < offset) = true := by
    refine tiles.pairwise.imp fun ordered passes => ?_
    have begins := of_decide_eq_true passes
    exact decide_eq_true (by omega)
  rcases exists_partitionPoint inOrder with ⟨begun, later, parts, point, passed, failed⟩
  exact ⟨begun, later, parts, point,
    fun token member => of_decide_eq_true (passed token member),
    fun token member => Nat.le_of_not_lt (of_decide_eq_false (failed token member))⟩

/--
Of tokens that lie one after the other, those that overlap a span lie between
those that end before it and those that begin behind it.  If the span is empty
or inverted, the two seams may be the other way round.
-/
theorem Tiles.between_seams (tiles : Tiles start stop tokens) (span : Span) :
    (tokens.take (max (partitionPoint (fun token => token.start < span.stop) tokens)
        (partitionPoint (fun token => token.stop ≤ span.start) tokens))).drop
        (partitionPoint (fun token => token.stop ≤ span.start) tokens) =
      tokens.filter (·.overlaps span) := by
  rcases tiles.exists_ended span.start with
    ⟨ended, reaching, endParts, endPoint, inEnded, inReaching⟩
  rcases tiles.exists_begun span.stop with
    ⟨begun, later, startParts, startPoint, inBegun, inLater⟩
  have endedOverlap : ended.filter (·.overlaps span) = [] :=
    List.filter_eq_nil_iff.mpr fun token member overlapping =>
      Nat.not_le_of_lt (overlaps_iff.mp overlapping).2 (inEnded token member)
  have laterOverlap : later.filter (·.overlaps span) = [] :=
    List.filter_eq_nil_iff.mpr fun token member overlapping =>
      Nat.not_le_of_lt (overlaps_iff.mp overlapping).1 (inLater token member)
  rw [endPoint, startPoint]
  rcases List.append_eq_append_iff.mp (endParts.trans startParts.symm) with
    ⟨between, rfl, parts⟩ | ⟨between, rfl, parts⟩
  · have betweenOverlap : between.filter (·.overlaps span) = between :=
      List.filter_eq_self.mpr fun token member => overlaps_iff.mpr
        ⟨inBegun token (List.mem_append_right _ member),
          inReaching token (parts ▸ List.mem_append_left _ member)⟩
    rw [← startParts, List.filter_append, List.filter_append, endedOverlap, betweenOverlap,
      laterOverlap, List.append_nil, List.nil_append,
      Nat.max_eq_left (List.length_append ▸ Nat.le_add_right _ _), List.take_left,
      List.drop_left]
  · have reachingOverlap : reaching.filter (·.overlaps span) = [] := by
      rw [parts, List.filter_append] at laterOverlap
      exact (List.append_eq_nil_iff.mp laterOverlap).2
    rw [← endParts, List.filter_append, endedOverlap, reachingOverlap,
      Nat.max_eq_right (List.length_append ▸ Nat.le_add_right _ _), List.take_left,
      List.drop_length, List.append_nil]

/-! ## Either side of an offset -/

/-- Only the last token that begins before the offset can reach beyond it. -/
theorem Tiles.before_eq (tiles : Tiles start stop tokens) (offset : Nat) :
    before offset tokens = restrict tokens { start := 0, stop := offset } := by
  rcases tiles.exists_begun offset with ⟨begun, later, rfl, point, inBegun, inLater⟩
  have nothing : restrict later { start := 0, stop := offset } = [] :=
    restrict_of_outside fun token member => Or.inl (inLater token member)
  rw [before, point, List.take_left, restrict_append, nothing, List.append_nil]
  rcases List.eq_nil_or_concat begun with rfl | ⟨earlier, last, rfl⟩
  · rfl
  · rw [List.concat_eq_append] at tiles inBegun ⊢
    have begins : last.start < offset := inBegun last List.mem_concat_self
    have ordered := (List.pairwise_append.mp (List.pairwise_append.mp tiles.pairwise).1).2.2
    have uncut : restrict earlier { start := 0, stop := offset } = earlier := by
      refine restrict_of_within fun token member => ?_
      rcases ordered token member last List.mem_cons_self with ⟨nonempty, behind, -⟩
      exact ⟨Nat.zero_le _, nonempty, by simp only; omega⟩
    have inFront : last.overlaps { start := 0, stop := offset } = true := by
      have nonempty := (tiles.bounds (List.mem_append_left _ List.mem_concat_self)).2.1
      exact overlaps_iff.mpr ⟨begins, Nat.lt_of_le_of_lt (Nat.zero_le _) nonempty⟩
    simp only [List.getLast?_concat, List.dropLast_concat]
    rw [restrict_append, uncut, restrict_cons, if_pos inFront, clip, Nat.max_zero]
    rfl

theorem Tiles.after_eq (tiles : Tiles start stop tokens) (offset : Nat) :
    after offset tokens = restrict tokens { start := offset, stop := stop } := by
  rcases tiles.exists_ended offset with ⟨ended, reaching, rfl, point, inEnded, inReaching⟩
  have nothing : restrict ended { start := offset, stop := stop } = [] :=
    restrict_of_outside fun token member => Or.inr (inEnded token member)
  have bounds : forall token, token ∈ reaching -> token.start < stop ∧ token.stop ≤ stop := by
    intro token member
    rcases tiles.bounds (List.mem_append_right _ member) with ⟨-, nonempty, inside⟩
    exact ⟨Nat.lt_of_lt_of_le nonempty inside, inside⟩
  have all : reaching.filter (·.overlaps { start := offset, stop := stop }) = reaching :=
    List.filter_eq_self.mpr fun token member =>
      overlaps_iff.mpr ⟨(bounds token member).1, inReaching token member⟩
  rw [after, point, List.drop_left, restrict_append, nothing, List.nil_append, restrict, all]
  refine List.map_congr_left fun token member => ?_
  rw [clip, Nat.min_eq_left (bounds token member).2]

end Token
end Lexis
