import Lexis.Proofs.Scan.Spelled

namespace Lexis

/-!
What tokens show of a part of their text.

Tokens that lie one after the other and are cut down to a span lie one after the
other from its start to its end.  So if none of them is cut inside a character,
they spell the part of the text in the span (`Token.flatMap_text_restrict`).
-/

namespace Text

/-- The part between two boundaries and the part up to a third make one part. -/
theorem slice_append_slice {start middle stop : Nat} {text : Text}
    (starts : text.IsBoundary start) (between : text.IsBoundary middle)
    (stops : text.IsBoundary stop) (lower : start ≤ middle) (upper : middle ≤ stop) :
    text.slice start middle ++ text.slice middle stop = text.slice start stop := by
  have parts : exists front first second back, text = front ++ (first ++ (second ++ back)) ∧
      start = size front ∧ middle = start + size first ∧ stop = middle + size second := by
    rcases before_isPrefix lower text with ⟨first, firstParts⟩
    rcases before_isPrefix upper text with ⟨second, secondParts⟩
    refine ⟨before start text, first, second, after stop text, ?_, starts.symm, ?_, ?_⟩
    · rw [← List.append_assoc, firstParts, ← List.append_assoc, secondParts, before_append_after]
    · rw [← between, ← firstParts, size_append, starts]
    · rw [← stops, ← secondParts, size_append, between]
  rcases parts with ⟨front, first, second, back, rfl, rfl, rfl, rfl⟩
  have both := slice_between front (first ++ second) back
  have behind := slice_between (front ++ first) second back
  rw [size_append, ← Nat.add_assoc, List.append_assoc] at both
  rw [size_append, List.append_assoc] at behind
  rw [slice_between, behind, both]

end Text

namespace Token

variable {start stop lower upper : Nat} {tokens : List Token} {text : Text}

/-- Cut down to a span that they reach, tokens lie one after the other in it. -/
theorem Tiles.restrict (tiles : Tiles start stop tokens) (ordered : lower < upper)
    (inside : start ≤ upper) (reached : upper ≤ stop) :
    Tiles (max start lower) upper (restrict tokens { start := lower, stop := upper }) := by
  induction tokens generalizing start with
  | nil =>
      obtain rfl : start = stop := tiles
      exact Nat.le_antisymm (Nat.max_le.mpr ⟨inside, Nat.le_of_lt ordered⟩)
        (Nat.le_trans reached (Nat.le_max_left _ _))
  | cons token tokens ih =>
      rcases tiles with ⟨rfl, nonempty, rest⟩
      have nothing : upper ≤ token.stop ->
          Token.restrict tokens { start := lower, stop := upper } = [] := fun beyond =>
        restrict_of_outside fun _ member => Or.inl (Nat.le_trans beyond (rest.bounds member).1)
      by_cases overlapping : token.overlaps { start := lower, stop := upper } = true
      · rw [restrict_cons, if_pos overlapping]
        simp only [overlaps_iff] at overlapping
        refine ⟨rfl, by simp only [clip]; omega, ?_⟩
        rcases Nat.le_total upper token.stop with beyond | within
        · rw [nothing beyond]
          exact Nat.min_eq_right beyond
        · have remaining := ih rest within
          rw [Nat.max_eq_left (Nat.le_of_lt overlapping.2)] at remaining
          simpa only [clip, Nat.min_eq_left within] using remaining
      · rw [restrict_cons, if_neg overlapping]
        simp only [overlaps_iff] at overlapping
        rcases Nat.lt_or_ge token.start upper with before | atEnd
        · -- the token ends before the span, so the next one enters it
          have entry : max token.stop lower = max token.start lower := by omega
          have remaining := ih rest (by omega)
          rwa [entry] at remaining
        · rw [nothing (by omega)]
          exact (Nat.max_eq_left (by omega)).trans (Nat.le_antisymm inside atEnd)

/-- Tokens that are not cut inside a character spell the text that they lie in. -/
theorem Tiles.flatMap_text (tiles : Tiles start stop tokens) (stops : text.IsBoundary stop)
    (boundaries : forall token, token ∈ tokens ->
      text.IsBoundary token.start ∧ text.IsBoundary token.stop) :
    tokens.flatMap (·.text text) = text.slice start stop := by
  induction tokens generalizing start with
  | nil =>
      obtain rfl : start = stop := tiles
      simp [Text.slice]
  | cons token tokens ih =>
      rcases tiles with ⟨rfl, nonempty, rest⟩
      rcases boundaries token List.mem_cons_self with ⟨begins, ends⟩
      have others := ih rest fun other member => boundaries other (List.mem_cons_of_mem _ member)
      rw [List.flatMap_cons, others]
      exact Text.slice_append_slice begins ends stops (Nat.le_of_lt nonempty) rest.le

/-- Cut down to a span between two boundaries, the tokens of a text spell what lies in the span. -/
theorem flatMap_text_restrict (partitions : Partitions 0 text tokens)
    (starts : text.IsBoundary lower) (stops : text.IsBoundary upper) (ordered : lower < upper) :
    (restrict tokens { start := lower, stop := upper }).flatMap (·.text text) =
      text.slice lower upper := by
  have tiles := partitions.tiles
  rw [Nat.zero_add] at tiles
  have cut := tiles.restrict ordered (Nat.zero_le upper) stops.le_size
  rw [Nat.zero_max] at cut
  apply cut.flatMap_text stops
  intro token member
  rcases List.mem_map.mp member with ⟨whole, inFilter, rfl⟩
  rcases partitions.boundaries whole (List.mem_filter.mp inFilter).1 with ⟨begins, ends⟩
  simp only [clip, Nat.max_def, Nat.min_def]
  constructor
  · exact iteInduction (motive := (Text.IsBoundary · text)) (fun _ => starts) (fun _ => begins)
  · exact iteInduction (motive := (Text.IsBoundary · text)) (fun _ => ends) (fun _ => stops)

end Token
end Lexis
