import Lexis.Cut

namespace Lexis

/-!
Runs of characters that are as long as they can be.

A run of a class is maximal if the class has the run's characters and not the
one that follows.  The longest run that a text begins with is the only one of
its fronts that is so (`isMaximalRun_run`, `IsMaximalRun.run_eq`).
-/

/-- All characters of the front are in the class, and what lies behind does not go on with it. -/
structure IsMaximalRun (inClass : Char -> Bool) (front behind : Text) : Prop where
  inside : forall character, character ∈ front -> inClass character = true
  stops : forall character, behind.head? = some character -> inClass character = false

variable {inClass : Char -> Bool} {head : Char} {front behind : Text}

theorem isMaximalRun_run (inClass : Char -> Bool) (text : Text) :
    IsMaximalRun inClass (Cut.run inClass text).taken (Cut.run inClass text).rest where
  inside _ member := List.all_eq_true.mp List.all_takeWhile _ member
  stops character follows := by
    have stops := List.head?_dropWhile_not inClass text
    rw [show text.dropWhile inClass = (Cut.run inClass text).rest from rfl, follows] at stops
    exact stops

theorem IsMaximalRun.cons (isRun : IsMaximalRun inClass front behind)
    (member : inClass head = true) : IsMaximalRun inClass (head :: front) behind where
  inside := List.forall_mem_cons.mpr ⟨member, isRun.inside⟩
  stops := isRun.stops

/-- A maximal run is what the class takes of the text. -/
theorem IsMaximalRun.run_eq (isRun : IsMaximalRun inClass front behind) :
    Cut.run inClass (front ++ behind) = { taken := front, rest := behind } := by
  have stop : behind.takeWhile inClass = [] ∧ behind.dropWhile inClass = behind := by
    cases behind with
    | nil => exact ⟨rfl, rfl⟩
    | cons character rest => simp [isRun.stops character rfl]
  rw [Cut.run, List.takeWhile_append_of_pos isRun.inside,
    List.dropWhile_append_of_pos isRun.inside, stop.1, stop.2, List.append_nil]

theorem isMaximalRun_iff : IsMaximalRun inClass front behind <->
    Cut.run inClass (front ++ behind) = { taken := front, rest := behind } := by
  refine ⟨IsMaximalRun.run_eq, fun same => ?_⟩
  have isRun := isMaximalRun_run inClass (front ++ behind)
  rwa [same] at isRun

/-- A word of the class is the beginning of a text just if it is that of the maximal run. -/
theorem IsMaximalRun.isPrefix_iff (isRun : IsMaximalRun inClass front behind) {word : Text}
    (inside : forall character, character ∈ word -> inClass character = true) :
    word <+: front ++ behind <-> word <+: front := by
  refine ⟨fun opens => ?_, fun opens => opens.trans (List.prefix_append front behind)⟩
  rcases List.prefix_or_prefix_of_prefix opens (List.prefix_append front behind) with
    shorter | ⟨more, rfl⟩
  · exact shorter
  · cases more with
    | nil => simp
    | cons character more =>
        rcases (List.prefix_append_right_inj front).mp opens with ⟨rest, follows⟩
        have outside := isRun.stops character (by rw [← follows]; rfl)
        have member := inside character (List.mem_append_right front List.mem_cons_self)
        exact absurd member (Bool.eq_false_iff.mp outside)

/-- The front goes on up to the next line break, or up to the end. -/
def IsRestOfLine (front behind : Text) : Prop :=
  IsMaximalRun (fun character => !isLineBreak character) front behind

theorem isRestOfLine_toLineEnd (text : Text) :
    IsRestOfLine (Cut.toLineEnd text).taken (Cut.toLineEnd text).rest :=
  isMaximalRun_run _ text

theorem IsRestOfLine.inLine (isLine : IsRestOfLine front behind) {character : Char}
    (member : character ∈ front) : isLineBreak character = false := by
  simpa using isLine.inside character member

end Lexis
