import Lexis.Proofs.Scanner.Steps

namespace Lexis

/-!
What a mode of two values remembers.

The mode of the scanners here is a mark that some tokens set and some tokens let
stand.  It is set at a place just if one of the tokens in front has set it, or
the text has begun with it, and all tokens since have let it stand
(`Scanner.keepsTrack_since`).
-/

variable {Item : Type} {fromStart : Bool} {sets keeps : Item -> Prop} {items : List Item}

/-- Since the start, or since one of the items that set the mark, all items have kept it. -/
def Since (fromStart : Bool) (sets keeps : Item -> Prop) (items : List Item) : Prop :=
  exists front behind, items = front ++ behind ∧ (forall item, item ∈ behind -> keeps item) ∧
    (fromStart = true ∧ front = [] ∨ exists before setter, front = before ++ [setter] ∧ sets setter)

theorem since_nil : Since fromStart sets keeps [] <-> fromStart = true := by
  constructor
  · rintro ⟨front, behind, none, -, ⟨isSet, -⟩ | ⟨before, setter, rfl, -⟩⟩
    · exact isSet
    · exact absurd none (by simp)
  · exact fun isSet => ⟨[], [], rfl, by simp, Or.inl ⟨isSet, rfl⟩⟩

/-- Behind one item more, the mark was set by it, or it was set before and kept by it. -/
theorem since_append {item : Item} : Since fromStart sets keeps (items ++ [item]) <->
    sets item ∨ keeps item ∧ Since fromStart sets keeps items := by
  constructor
  · rintro ⟨front, behind, parts, kept, entry⟩
    rcases List.eq_nil_or_concat behind with rfl | ⟨behind, last, rfl⟩
    · rw [List.append_nil] at parts
      rcases entry with ⟨-, rfl⟩ | ⟨before, setter, rfl, isSet⟩
      · exact absurd parts (by simp)
      · rcases List.append_inj' parts rfl with ⟨-, same⟩
        rcases List.cons.inj same with ⟨rfl, -⟩
        exact Or.inl isSet
    · rw [List.concat_eq_append] at parts kept
      rw [← List.append_assoc] at parts
      rcases List.append_inj' parts rfl with ⟨rfl, same⟩
      rcases List.cons.inj same with ⟨rfl, -⟩
      exact Or.inr ⟨kept item (by simp), front, behind, rfl,
        fun other member => kept other (List.mem_append_left _ member), entry⟩
  · rintro (isSet | ⟨keepsIt, front, behind, rfl, kept, entry⟩)
    · exact ⟨items ++ [item], [], by simp, by simp, Or.inr ⟨items, item, rfl, isSet⟩⟩
    · refine ⟨front, behind ++ [item], by simp, ?_, entry⟩
      intro other member
      rcases List.mem_append.mp member with inFront | last
      · exact kept other inFront
      · rwa [List.mem_singleton.mp last]

/-- A mode that each token sets, or lets stand, tells what the tokens in front have done. -/
theorem Scanner.keepsTrack_since {scanner : Scanner Bool} {source : Text} (fromStart : Bool)
    {sets keeps : Token -> Prop}
    (steps : forall mode head tail token, scanner.CutsOff source mode head tail token ->
      ((scanner.next mode head tail).mode = true <-> sets token ∨ keeps token ∧ mode = true)) :
    scanner.KeepsTrack source fun earlier mode =>
      mode = true <-> Since fromStart sets keeps earlier := by
  intro earlier mode head tail token known cutsOff
  rw [steps mode head tail token cutsOff, since_append, known]

end Lexis
