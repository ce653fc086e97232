import Lexis.Proofs.Scan.Append

namespace Lexis

/-!
Tokens side by side.

The tokens of a scan tile the place of its text: they lie one after the other,
none of them is empty, and the last ends where the text does.  Restricted to
one side of a seam, joined tokens are those of that side, since the token that
crosses the seam is cut there again.
-/

/-- An offset is moved by the whole distance if the target can be stored. -/
theorem moveOffset_eq {source target : Nat} {distance : Int}
    (moved : (source : Int) + distance = target) (storable : target ≤ maxOffset) :
    moveOffset source distance = target := by
  rw [moveOffset, moved, Int.toNat_natCast, Nat.min_eq_left storable]

namespace Token

/-- The tokens lie one after the other from one offset to another, and none is empty. -/
def Tiles : Nat -> Nat -> List Token -> Prop
  | start, stop, [] => start = stop
  | start, stop, token :: tokens =>
      token.start = start ∧ start < token.stop ∧ Tiles token.stop stop tokens

variable {start middle stop : Nat} {tokens earlier later : List Token}

theorem Tiles.le (tiles : Tiles start stop tokens) : start ≤ stop := by
  induction tokens generalizing start with
  | nil => exact Nat.le_of_eq tiles
  | cons token tokens ih =>
      rcases tiles with ⟨-, nonempty, rest⟩
      exact Nat.le_trans (Nat.le_of_lt nonempty) (ih rest)

theorem Tiles.bounds (tiles : Tiles start stop tokens) {token : Token} (member : token ∈ tokens) :
    start ≤ token.start ∧ token.start < token.stop ∧ token.stop ≤ stop := by
  induction tokens generalizing start with
  | nil => exact absurd member (by simp)
  | cons first tokens ih =>
      rcases tiles with ⟨rfl, nonempty, rest⟩
      rcases List.mem_cons.mp member with rfl | member
      · exact ⟨Nat.le_refl _, nonempty, rest.le⟩
      · rcases ih rest member with ⟨lower, inside, upper⟩
        exact ⟨by omega, inside, upper⟩

theorem Tiles.eq_nil (tiles : Tiles start start tokens) : tokens = [] := by
  cases tokens with
  | nil => rfl
  | cons token tokens =>
      rcases tiles with ⟨-, nonempty, rest⟩
      exact absurd rest.le (Nat.not_le_of_lt nonempty)

theorem Tiles.start_eq_stop (tiles : Tiles start stop tokens) {first second : Token}
    (neighbors : [first, second] <:+: tokens) : second.start = first.stop := by
  induction tokens generalizing start with
  | nil => exact absurd (List.infix_nil.mp neighbors) (by simp)
  | cons token tokens ih =>
      rcases tiles with ⟨-, -, rest⟩
      rcases List.infix_cons_iff.mp neighbors with inFront | behind
      · rcases List.cons_prefix_cons.mp inFront with ⟨rfl, follows⟩
        cases tokens with
        | nil => exact absurd (List.prefix_nil.mp follows) (by simp)
        | cons next tokens =>
            rcases List.cons_prefix_cons.mp follows with ⟨rfl, -⟩
            exact rest.1
      · exact ih rest behind

/-! ## Restriction -/

theorem overlaps_iff {token : Token} {span : Span} :
    token.overlaps span = true <-> token.start < span.stop ∧ span.start < token.stop := by
  simp only [overlaps, Bool.and_eq_true, decide_eq_true_eq]

theorem restrict_cons (token : Token) (tokens : List Token) (span : Span) :
    restrict (token :: tokens) span =
      if token.overlaps span then token.clip span :: restrict tokens span
      else restrict tokens span := by
  by_cases overlapping : token.overlaps span = true <;> simp [restrict, overlapping]

theorem restrict_append (earlier later : List Token) (span : Span) :
    restrict (earlier ++ later) span = restrict earlier span ++ restrict later span := by
  rw [restrict, List.filter_append, List.map_append]
  rfl

/-- Nothing is cut off tokens that lie within the span. -/
theorem restrict_of_within {span : Span} (within : forall token, token ∈ tokens ->
    span.start ≤ token.start ∧ token.start < token.stop ∧ token.stop ≤ span.stop) :
    restrict tokens span = tokens := by
  induction tokens with
  | nil => rfl
  | cons token tokens ih =>
      rcases within token List.mem_cons_self with ⟨lower, nonempty, upper⟩
      have overlapping : token.overlaps span = true := by
        simp only [overlaps_iff]
        omega
      have uncut : token.clip span = token := by
        simp only [clip, Nat.max_eq_left lower, Nat.min_eq_left upper]
      rw [restrict_cons, if_pos overlapping, uncut,
        ih fun token member => within token (List.mem_cons_of_mem _ member)]

theorem Tiles.restrict_self (tiles : Tiles start stop tokens) :
    restrict tokens { start := start, stop := stop } = tokens :=
  restrict_of_within fun _ member => tiles.bounds member

/-- Nothing is left of tokens that all lie on one side of the span. -/
theorem restrict_of_outside {span : Span} (outside : forall token, token ∈ tokens ->
    span.stop ≤ token.start ∨ token.stop ≤ span.start) : restrict tokens span = [] := by
  induction tokens with
  | nil => rfl
  | cons token tokens ih =>
      have apart : ¬ token.overlaps span = true := by
        have := outside token List.mem_cons_self
        simp only [overlaps_iff]
        omega
      rw [restrict_cons, if_neg apart,
        ih fun token member => outside token (List.mem_cons_of_mem _ member)]

theorem Tiles.restrict_behind (tiles : Tiles start stop tokens) (lower : Nat) :
    restrict tokens { start := lower, stop := start } = [] :=
  restrict_of_outside fun _ member => Or.inl (tiles.bounds member).1

theorem Tiles.restrict_ahead (tiles : Tiles start stop tokens) (upper : Nat) :
    restrict tokens { start := stop, stop := upper } = [] :=
  restrict_of_outside fun _ member => Or.inr (tiles.bounds member).2.2

/-- Up to the seam, joined tokens are the earlier ones. -/
theorem restrict_join_left (isOpen : Bool) (first : Tiles start middle earlier)
    (second : Tiles middle stop later) {lower : Nat} (before : lower < middle) :
    restrict (join isOpen earlier later) { start := lower, stop := middle } =
      restrict earlier { start := lower, stop := middle } := by
  have nothing := second.restrict_behind lower
  induction earlier generalizing start with
  | nil => exact nothing
  | cons token earlier ih =>
      rcases first with ⟨-, nonempty, rest⟩
      cases earlier with
      | cons second earlier =>
          rw [join_cons isOpen token later (by simp), restrict_cons, restrict_cons, ih rest]
      | nil =>
          obtain rfl : token.stop = middle := rest
          cases later with
          | nil => rw [join_nil_right]
          | cons next more =>
              rcases second with ⟨-, nextNonempty, moreTiles⟩
              rw [join_singleton_cons]
              split
              · -- the merged token is cut back to where the earlier one stopped
                have noMore : restrict more { start := lower, stop := token.stop } = [] :=
                  restrict_of_outside fun _ member =>
                    Or.inl (Nat.le_trans (Nat.le_of_lt nextNonempty) (moreTiles.bounds member).1)
                have further : lower < next.stop := Nat.lt_trans before nextNonempty
                simp only [restrict_cons, noMore, overlaps, clip, before, further, Nat.min_self,
                  Nat.min_eq_right (Nat.le_of_lt nextNonempty)]
                rfl
              · rw [restrict_cons, nothing, restrict_cons]
                rfl

/-- From the seam on, joined tokens are the later ones. -/
theorem restrict_join_right (isOpen : Bool) (first : Tiles start middle earlier)
    (second : Tiles middle stop later) {upper : Nat} (beyond : middle < upper) :
    restrict (join isOpen earlier later) { start := middle, stop := upper } =
      restrict later { start := middle, stop := upper } := by
  have nothing := first.restrict_ahead upper
  induction earlier generalizing start with
  | nil => rfl
  | cons token earlier ih =>
      rcases first with ⟨rfl, nonempty, rest⟩
      have apart : ¬ token.overlaps { start := middle, stop := upper } = true := by
        have := rest.le
        simp only [overlaps_iff]
        omega
      rw [restrict_cons, if_neg apart] at nothing
      cases earlier with
      | cons second earlier =>
          rw [join_cons isOpen token later (by simp), restrict_cons, if_neg apart, ih rest nothing]
      | nil =>
          obtain rfl : token.stop = middle := rest
          cases later with
          | nil => rw [join_nil_right, restrict_cons, if_neg apart]
          | cons next more =>
              rcases second with ⟨starts, nextNonempty, -⟩
              rw [join_singleton_cons]
              split
              · -- of the merged token the later piece is left
                next merges =>
                have same := (Bool.and_eq_true_iff.mp merges).2
                simp only [continues, Bool.and_eq_true, beq_iff_eq] at same
                have earlierStart : token.start < upper := Nat.lt_trans nonempty beyond
                simp only [restrict_cons, overlaps, clip, starts, same.1, earlierStart, beyond,
                  Nat.max_self, Nat.max_eq_right (Nat.le_of_lt nonempty)]
              · rw [restrict_cons, if_neg apart]

/-! ## The tokens of lexemes -/

/-- Tokens are moved with their text, as far as offsets reach. -/
theorem map_shift_place (lexemes : List Lexeme) {source target : Nat} {distance : Int}
    (moved : (source : Int) + distance = target)
    (storable : target + (Lexeme.spell lexemes).size ≤ maxOffset) :
    (Lexeme.place source lexemes).map (·.shift distance) = Lexeme.place target lexemes := by
  induction lexemes generalizing source target with
  | nil => rfl
  | cons lexeme lexemes ih =>
      have size : (Lexeme.spell (lexeme :: lexemes)).size =
          lexeme.text.size + (Lexeme.spell lexemes).size := by
        simp [Lexeme.spell]
      rw [size] at storable
      have rest : (Lexeme.place (source + lexeme.text.size) lexemes).map (·.shift distance) =
          Lexeme.place (target + lexeme.text.size) lexemes := ih (by omega) (by omega)
      have first : moveOffset source distance = target := moveOffset_eq moved (by omega)
      have last : moveOffset (source + lexeme.text.size) distance = target + lexeme.text.size :=
        moveOffset_eq (by omega) (by omega)
      rw [Lexeme.place, List.map_cons, rest, shift, first, last]
      rfl

end Token
end Lexis
