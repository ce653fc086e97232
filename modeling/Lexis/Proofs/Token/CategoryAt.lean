import Lexis.Proofs.Token.Tiles

namespace Lexis
namespace Token

/-!
What a view shows at a byte.

A view colours every byte by the category of the token that covers it.  It may
look for that token in a list that was cut down to a span around the byte, and
tokens that have been moved show at an offset what they showed before at the
offset they were moved from.
-/

def covers (token : Token) (offset : Nat) : Bool :=
  token.start ≤ offset && offset < token.stop

/-- The category that is shown at an offset: that of the first token that covers it. -/
def categoryAt (tokens : List Token) (offset : Nat) : Option Category :=
  (tokens.find? (·.covers offset)).map (·.category)

variable {tokens : List Token}

theorem covers_iff {token : Token} {offset : Nat} :
    token.covers offset = true ↔ token.start ≤ offset ∧ offset < token.stop := by
  simp only [covers, Bool.and_eq_true, decide_eq_true_eq]

theorem categoryAt_cons (token : Token) (tokens : List Token) (offset : Nat) :
    categoryAt (token :: tokens) offset =
      if token.covers offset then some token.category else categoryAt tokens offset := by
  cases covered : token.covers offset <;> simp [categoryAt, covered]

/-- Within a span, tokens that were cut down to it show the same. -/
theorem categoryAt_restrict (tokens : List Token) {start stop offset : Nat}
    (lower : start ≤ offset) (upper : offset < stop) :
    categoryAt (restrict tokens { start := start, stop := stop }) offset =
      categoryAt tokens offset := by
  induction tokens with
  | nil => rfl
  | cons token tokens ih =>
      rw [restrict_cons, categoryAt_cons]
      by_cases overlapping : token.overlaps { start := start, stop := stop } = true
      · have same : (token.clip { start := start, stop := stop }).covers offset =
            token.covers offset := by
          rw [Bool.eq_iff_iff, covers_iff, covers_iff]
          simp only [clip]
          omega
        rw [if_pos overlapping, categoryAt_cons, same, ih]
        rfl
      · have uncovered : ¬ token.covers offset = true := by
          rw [covers_iff]
          simp only [overlaps_iff] at overlapping
          omega
        rw [if_neg overlapping, if_neg uncovered, ih]

/-- What is left of a token lies within the span. -/
theorem bounds_of_mem_restrict {span : Span} (ordered : span.start ≤ span.stop) {token : Token}
    (member : token ∈ restrict tokens span) :
    span.start ≤ token.start ∧ token.start ≤ span.stop ∧
      span.start ≤ token.stop ∧ token.stop ≤ span.stop := by
  rcases List.mem_map.mp member with ⟨whole, inFilter, rfl⟩
  have overlapping := (List.mem_filter.mp inFilter).2
  simp only [overlaps_iff] at overlapping
  simp only [clip]
  omega

/-- Moved tokens show what they showed before, as far as offsets reach. -/
theorem categoryAt_map_shift {source target : Nat} {distance : Int}
    (moved : (source : Int) + distance = target)
    (bounds : forall token, token ∈ tokens ->
      0 ≤ token.start + distance ∧ token.start + distance ≤ maxOffset ∧
        0 ≤ token.stop + distance ∧ token.stop + distance ≤ maxOffset) :
    categoryAt (tokens.map (·.shift distance)) target = categoryAt tokens source := by
  induction tokens with
  | nil => rfl
  | cons token tokens ih =>
      rcases bounds token List.mem_cons_self with ⟨startLower, startUpper, stopLower, stopUpper⟩
      have same : (token.shift distance).covers target = token.covers source := by
        rw [Bool.eq_iff_iff, covers_iff, covers_iff]
        simp only [shift, moveOffset]
        omega
      rw [List.map_cons, categoryAt_cons, categoryAt_cons, same,
        ih fun token member => bounds token (List.mem_cons_of_mem _ member)]
      rfl

end Token
end Lexis
