import Lexis.Proofs.Text.Boundary
import Lexis.Proofs.Token.Tiles

namespace Lexis
namespace Token

/-!
Tokens that partition a text.

The tokens of a text that lies somewhere in a document tile its place, and none
of them begins or ends inside a character.  This is kept when the tokens of two
texts are joined, since a token that is made of two pieces begins with the one
and ends with the other.
-/

/-- The tokens cut the text, which begins at the offset `base`, into nonempty pieces. -/
structure Partitions (base : Nat) (text : Text) (tokens : List Token) : Prop where
  tiles : Tiles base (base + text.size) tokens
  boundaries : forall token, token ∈ tokens ->
    text.IsBoundary (token.start - base) ∧ text.IsBoundary (token.stop - base)

variable {start middle stop base : Nat} {earlier later tokens : List Token} {front back text : Text}

theorem Tiles.join (isOpen : Bool) (first : Tiles start middle earlier)
    (second : Tiles middle stop later) : Tiles start stop (join isOpen earlier later) := by
  induction earlier generalizing start with
  | nil =>
      obtain rfl : start = middle := first
      exact second
  | cons token earlier ih =>
      rcases first with ⟨starts, nonempty, rest⟩
      cases earlier with
      | cons next earlier =>
          rw [join_cons isOpen token later (by simp)]
          exact ⟨starts, nonempty, ih rest⟩
      | nil =>
          obtain rfl : token.stop = middle := rest
          cases later with
          | nil =>
              rw [join_nil_right]
              exact ⟨starts, nonempty, second⟩
          | cons next more =>
              rw [join_singleton_cons]
              split
              · exact ⟨starts, Nat.lt_trans nonempty second.2.1, second.2.2⟩
              · exact ⟨starts, nonempty, second⟩

/-- Each of the joined tokens begins with one of the two lists and ends with one of them. -/
theorem exists_of_mem_join {isOpen : Bool} {token : Token}
    (member : token ∈ join isOpen earlier later) :
    exists first last, first ∈ earlier ++ later ∧ last ∈ earlier ++ later ∧
      token.start = first.start ∧ token.stop = last.stop := by
  induction earlier with
  | nil => exact ⟨token, token, member, member, rfl, rfl⟩
  | cons head earlier ih =>
      cases earlier with
      | cons next earlier =>
          rw [join_cons isOpen head later (by simp)] at member
          rcases List.mem_cons.mp member with rfl | member
          · exact ⟨token, token, List.mem_cons_self, List.mem_cons_self, rfl, rfl⟩
          · rcases ih member with ⟨first, last, isFirst, isLast, same⟩
            exact ⟨first, last, List.mem_cons_of_mem _ isFirst, List.mem_cons_of_mem _ isLast, same⟩
      | nil =>
          cases later with
          | nil =>
              rw [join_nil_right] at member
              exact ⟨token, token, by simpa using member, by simpa using member, rfl, rfl⟩
          | cons next more =>
              rw [join_singleton_cons] at member
              split at member
              · rcases List.mem_cons.mp member with rfl | member
                · exact ⟨head, next, by simp, by simp, rfl, rfl⟩
                · exact ⟨token, token, by simp [member], by simp [member], rfl, rfl⟩
              · exact ⟨token, token, member, member, rfl, rfl⟩

/-- The tokens of a text and of the one behind it partition both texts together. -/
theorem Partitions.join (isOpen : Bool) (first : Partitions base front earlier)
    (second : Partitions (base + front.size) back later) :
    Partitions base (front ++ back) (join isOpen earlier later) where
  tiles := by
    have behind := second.tiles
    rw [Nat.add_assoc, ← Text.size_append] at behind
    exact first.tiles.join isOpen behind
  boundaries := by
    have all : forall token, token ∈ earlier ++ later ->
        (front ++ back).IsBoundary (token.start - base) ∧
          (front ++ back).IsBoundary (token.stop - base) := by
      intro token member
      rcases List.mem_append.mp member with inEarlier | inLater
      · rcases first.boundaries token inEarlier with ⟨begins, ends⟩
        exact ⟨begins.append_right back, ends.append_right back⟩
      · rcases second.boundaries token inLater with ⟨begins, ends⟩
        rcases second.tiles.bounds inLater with ⟨lower, nonempty, -⟩
        have moved : forall offset, base + front.size ≤ offset ->
            front.size + (offset - (base + front.size)) = offset - base := by
          intro offset behind
          omega
        have begins := begins.append_left front
        have ends := ends.append_left front
        rw [moved _ lower] at begins
        rw [moved _ (Nat.le_trans lower (Nat.le_of_lt nonempty))] at ends
        exact ⟨begins, ends⟩
    intro token member
    rcases exists_of_mem_join member with ⟨head, last, isFirst, isLast, starts, stops⟩
    rw [starts, stops]
    exact ⟨(all head isFirst).1, (all last isLast).2⟩

/-- Between two other texts, the tokens begin and end at boundaries of the whole. -/
theorem Partitions.isBoundary_append (partitions : Partitions front.size text tokens) (back : Text)
    {token : Token} (member : token ∈ tokens) :
    (front ++ (text ++ back)).IsBoundary token.start ∧
      (front ++ (text ++ back)).IsBoundary token.stop := by
  rcases partitions.boundaries token member with ⟨begins, ends⟩
  rcases partitions.tiles.bounds member with ⟨lower, nonempty, -⟩
  have begins := (begins.append_right back).append_left front
  have ends := (ends.append_right back).append_left front
  rw [Nat.add_sub_cancel' lower] at begins
  rw [Nat.add_sub_cancel' (Nat.le_trans lower (Nat.le_of_lt nonempty))] at ends
  exact ⟨begins, ends⟩

theorem partitions_nil (base : Nat) : Partitions base [] [] where
  tiles := rfl
  boundaries _ member := absurd member (by simp)

/-- One more nonempty piece in front. -/
theorem Partitions.cons (category : Category) {piece : Text} (nonempty : piece ≠ [])
    (partitions : Partitions (base + piece.size) text tokens) :
    Partitions base (piece ++ text)
      ({ category := category, start := base, stop := base + piece.size } :: tokens) := by
  have single : Partitions base piece
      [{ category := category, start := base, stop := base + piece.size }] := by
    constructor
    · exact ⟨rfl, Nat.lt_add_of_pos_right (Text.size_pos nonempty), rfl⟩
    · intro token member
      obtain rfl := List.mem_singleton.mp member
      rw [Nat.sub_self, Nat.add_sub_cancel_left]
      exact ⟨Text.isBoundary_iff.mpr ⟨[], piece, rfl, rfl⟩,
        Text.isBoundary_iff.mpr ⟨piece, [], (List.append_nil _).symm, rfl⟩⟩
  have joined := single.join false partitions
  cases tokens with
  | nil => exact joined
  | cons next more => exact joined

theorem partitions_place {lexemes : List Lexeme}
    (nonempty : forall lexeme, lexeme ∈ lexemes -> lexeme.text ≠ []) (base : Nat) :
    Partitions base (Lexeme.spell lexemes) (Lexeme.place base lexemes) := by
  induction lexemes generalizing base with
  | nil => exact partitions_nil base
  | cons lexeme lexemes ih =>
      have rest := ih (fun other member => nonempty other (List.mem_cons_of_mem _ member))
        (base + lexeme.text.size)
      exact rest.cons lexeme.category (nonempty lexeme List.mem_cons_self)

end Token
end Lexis
