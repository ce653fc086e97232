import Lexis.Search

namespace Lexis

/-!
What a search by halving finds.

The search looks at the middle item only.  If it passes, so do the items in
front of it, and if it fails, so do those behind it; hence the seam between the
items that pass and those that fail lies in the half that is searched
(`partitionPoint_append`).  A test that no item passes behind one that fails has
such a seam (`exists_partitionPoint`).
-/

variable {Item : Type} {passes : Item -> Bool} {front back items : List Item}

/-- An item passes just if it lies in front of the seam. -/
theorem any_getElem?_append (inFront : forall item, item ∈ front -> passes item = true)
    (inBack : forall item, item ∈ back -> passes item = false) (index : Nat) :
    (front ++ back)[index]?.any passes = true <-> index < front.length := by
  by_cases inside : index < front.length
  · have passed : passes front[index] = true := inFront _ (List.getElem_mem inside)
    rw [List.getElem?_append_left inside, List.getElem?_eq_getElem inside]
    exact iff_of_true passed inside
  · rw [List.getElem?_append_right (Nat.le_of_not_lt inside)]
    cases found : back[index - front.length]? with
    | none => exact iff_of_false Bool.false_ne_true inside
    | some item =>
        have failed : passes item = false := inBack item (List.mem_of_getElem? found)
        exact iff_of_false (Bool.eq_false_iff.mp failed) inside

theorem partitionPoint_append (inFront : forall item, item ∈ front -> passes item = true)
    (inBack : forall item, item ∈ back -> passes item = false) :
    partitionPoint passes (front ++ back) = front.length := by
  generalize parts : front ++ back = items
  fun_induction partitionPoint passes items generalizing front back with
  | case1 items few =>
      have noneInBack : back.countP passes = 0 :=
        List.countP_eq_zero.mpr fun item member => Bool.eq_false_iff.mp (inBack item member)
      rw [← parts, List.countP_append, List.countP_eq_length.mpr inFront, noneInBack, Nat.add_zero]
  | case2 items many passed ih =>
      subst parts
      have inside := (any_getElem?_append inFront inBack _).mp passed
      have rest := ih (fun item member => inFront item (List.mem_of_mem_drop member)) inBack
        (List.drop_append_of_le_length (Nat.le_of_lt inside)).symm
      rw [rest, List.length_drop]
      omega
  | case3 items many failed ih =>
      subst parts
      generalize same : (front ++ back).length - (front ++ back).length / 2 = number at ih ⊢
      have behind := Nat.le_of_not_lt (mt (any_getElem?_append inFront inBack _).mpr failed)
      have kept : front.length ≤ number := by omega
      have parts : (front ++ back).take number = front ++ back.take (number - front.length) := by
        rw [List.take_append, List.take_of_length_le kept]
      exact ih inFront (fun item member => inBack item (List.mem_of_mem_take member)) parts.symm

/-- If no item passes behind one that fails, the search cuts the list between them. -/
theorem exists_partitionPoint
    (ordered : items.Pairwise fun earlier later => passes later = true -> passes earlier = true) :
    exists front back, front ++ back = items ∧ partitionPoint passes items = front.length ∧
      (forall item, item ∈ front -> passes item = true) ∧
      (forall item, item ∈ back -> passes item = false) := by
  have seam : exists front back, front ++ back = items ∧
      (forall item, item ∈ front -> passes item = true) ∧
      (forall item, item ∈ back -> passes item = false) := by
    induction items with
    | nil => exact ⟨[], [], rfl, by simp, by simp⟩
    | cons head tail ih =>
        rcases List.pairwise_cons.mp ordered with ⟨fromHead, tailOrdered⟩
        cases passed : passes head with
        | true =>
            rcases ih tailOrdered with ⟨front, back, rfl, inFront, inBack⟩
            refine ⟨head :: front, back, rfl, ?_, inBack⟩
            exact List.forall_mem_cons.mpr ⟨passed, inFront⟩
        | false =>
            refine ⟨[], head :: tail, rfl, by simp, List.forall_mem_cons.mpr ⟨passed, ?_⟩⟩
            intro item member
            exact Bool.eq_false_iff.mpr fun passes => by simp [fromHead item member passes] at passed
  rcases seam with ⟨front, back, rfl, inFront, inBack⟩
  exact ⟨front, back, rfl, partitionPoint_append inFront inBack, inFront, inBack⟩

end Lexis
