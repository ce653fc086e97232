import Lexis.Toml.Document

namespace Lexis
namespace Toml

/-!
Statements that fill new tables.

An assignment changes nothing but the table that is open (`Opens`), so the
assignments behind a header put their entries into that table one after the
other, as long as no key comes twice.
-/

namespace Entries

/-- No entry has the key. -/
def Lacks (entries : Entries) (key : Text) : Prop :=
  forall entry, entry ∈ entries -> entry.1 ≠ key

theorem Lacks.nil (key : Text) : Lacks [] key :=
  fun _ member => absurd member (by simp)

variable {front : Entries} {key : Text}

/-- Entries with other keys stay as they are. -/
theorem alter_append (lacks : front.Lacks key) (change : Option Value -> Option Value)
    (back : Entries) :
    alter change key (front ++ back) = (alter change key back).map (front ++ ·) := by
  induction front with
  | nil => simp
  | cons entry front ih =>
      obtain ⟨other, others⟩ := List.forall_mem_cons.mp lacks
      rw [List.cons_append, alter, if_neg other, ih others, Option.map_map]
      rfl

/-- A key that was not there gets its entry at the end. -/
theorem alter_of_lacks (lacks : front.Lacks key) (change : Option Value -> Option Value) :
    alter change key front = (change none).map fun value => front ++ [(key, value)] := by
  have atEnd := alter_append lacks change []
  rw [List.append_nil, alter, Option.map_map] at atEnd
  exact atEnd

/-- The last entry is changed where it is. -/
theorem alter_last (lacks : front.Lacks key) (change : Option Value -> Option Value)
    (value : Value) : alter change key (front ++ [(key, value)]) =
      (change (some value)).map fun changed => front ++ [(key, changed)] := by
  rw [alter_append lacks, alter, if_pos rfl, Option.map_map]
  rfl

theorem alterLast_append (change : Entries -> Option Entries) (elements : List Entries)
    (last : Entries) : alterLast change (elements ++ [last]) =
      (change last).map fun changed => elements ++ [changed] := by
  induction elements with
  | nil => rfl
  | cons element elements ih =>
      rw [List.cons_append, alterLast, ih, Option.map_map]
      · rfl
      · simp

end Entries

/-- The path leads to a table that stands at this place among the entries. -/
def Opens (path : List Text) (place : Entries -> Entries) : Prop :=
  forall change inner, Entries.alterUnder change path (place inner) = (change inner).map place

theorem opens_table {front : Entries} {name : Text} (lacks : front.Lacks name) :
    Opens [name] fun inner => front ++ [(name, .table .header inner)] := by
  intro change inner
  rw [Entries.alterUnder, Entries.alter_last lacks]
  simp only [Entries.alterUnder, Option.map_map]
  rfl

theorem opens_element {front : Entries} {name : Text} (lacks : front.Lacks name)
    (elements : List Entries) :
    Opens [name] fun inner => front ++ [(name, .tables (elements ++ [inner]))] := by
  intro change inner
  have under : Entries.alterUnder change [] = change := funext fun _ => rfl
  rw [Entries.alterUnder, Entries.alter_last lacks]
  simp only [under, Entries.alterLast_append, Option.map_map]
  rfl

namespace Draft

variable {path : List Text} {place : Entries -> Entries}

theorem add_assignment (opens : Opens path place) {inner : Entries} {name : Text}
    (lacks : inner.Lacks name) (value : Value) :
    add { entries := place inner, path := path } (.assignment { last := name } value) =
      some { entries := place (inner ++ [(name, value)]), path := path } := by
  have defined : Entries.define value name [] inner = some (inner ++ [(name, value)]) :=
    Entries.alter_of_lacks lacks _
  rw [add, opens, defined]
  rfl

end Draft

/-- The assignments that give a table these entries. -/
def assignments (entries : Entries) : List Statement :=
  entries.map fun entry => .assignment { last := entry.1 } entry.2

/-- A table with its header and these entries. -/
def tableStatements (name : Text) (entries : Entries) : List Statement :=
  .table { last := name } :: assignments entries

/-- An element of an array of tables with its header and these entries. -/
def elementStatements (name : Text) (entries : Entries) : List Statement :=
  .element { last := name } :: assignments entries

/-- No key comes twice. -/
def Entries.AreDistinct (entries : Entries) : Prop :=
  entries.Pairwise fun first second => first.1 ≠ second.1

namespace Draft

variable {path : List Text} {place : Entries -> Entries}

/-- Assignments put their entries behind those that the open table has. -/
theorem foldlM_assignments (opens : Opens path place) {entries inner : Entries}
    (distinct : (inner ++ entries).AreDistinct) :
    (assignments entries).foldlM add { entries := place inner, path := path } =
      some { entries := place (inner ++ entries), path := path } := by
  induction entries generalizing inner with
  | nil => simp [assignments]
  | cons entry entries ih =>
      have lacks : inner.Lacks entry.1 := fun earlier member =>
        (List.pairwise_append.mp distinct).2.2 earlier member entry List.mem_cons_self
      have added := add_assignment opens lacks entry.2
      rw [List.append_cons inner entry entries] at distinct ⊢
      rw [assignments, List.map_cons, List.foldlM_cons, added]
      exact ih distinct

/-- A header and the assignments behind it put one table behind the entries. -/
theorem foldlM_table {front entries : Entries} {name : Text} (lacks : front.Lacks name)
    (distinct : entries.AreDistinct) (before : List Text) :
    (tableStatements name entries).foldlM add { entries := front, path := before } =
      some { entries := front ++ [(name, .table .header entries)], path := [name] } := by
  have opened : add { entries := front, path := before } (.table { last := name }) =
      some { entries := front ++ [(name, .table .header [])], path := [name] } := by
    simp [add, Entries.openTable, Entries.alterUnder, Entries.alter_of_lacks lacks]
  rw [tableStatements, List.foldlM_cons, opened]
  exact foldlM_assignments (opens_table lacks) distinct

end Draft

/-- The entries with an array of tables behind them, unless that has no elements. -/
def Entries.withElements (front : Entries) (name : Text) (elements : List Entries) : Entries :=
  if elements.isEmpty then front else front ++ [(name, .tables elements)]

namespace Entries

variable {front : Entries} {name : Text}

theorem find?_withElements (lacks : front.Lacks name) (elements : List Entries) :
    find? (front.withElements name elements) name =
      if elements.isEmpty then none else some (.tables elements) := by
  have absent : List.find? (fun entry => entry.1 == name) front = none := by
    rw [List.find?_eq_none]
    intro entry member
    simpa using lacks entry member
  rw [find?, withElements]
  split
  · rw [absent]
    rfl
  · simp [List.find?_append, absent]

theorem find?_withElements_of_ne {key : Text} (other : name ≠ key) (elements : List Entries) :
    find? (front.withElements name elements) key = find? front key := by
  rw [withElements]
  split
  · rfl
  · simp [find?, List.find?_append, other]

end Entries

namespace Draft

variable {front : Entries} {name : Text}

theorem add_element (lacks : front.Lacks name) (elements : List Entries) (before : List Text) :
    add { entries := front.withElements name elements, path := before }
        (.element { last := name }) =
      some { entries := front ++ [(name, .tables (elements ++ [[]]))], path := [name] } := by
  cases elements with
  | nil =>
      simp [add, Entries.openElement, Entries.alterUnder, Entries.withElements,
        Entries.alter_of_lacks lacks]
  | cons element elements =>
      simp [add, Entries.openElement, Entries.alterUnder, Entries.withElements,
        Entries.alter_last lacks]

theorem foldlM_element (lacks : front.Lacks name) (elements : List Entries) {entries : Entries}
    (distinct : entries.AreDistinct) (before : List Text) :
    (elementStatements name entries).foldlM add
        { entries := front.withElements name elements, path := before } =
      some { entries := front.withElements name (elements ++ [entries]), path := [name] } := by
  have whole : front.withElements name (elements ++ [entries]) =
      front ++ [(name, .tables (elements ++ [entries]))] := by
    simp [Entries.withElements]
  rw [elementStatements, List.foldlM_cons, add_element lacks, whole]
  exact foldlM_assignments (opens_element lacks elements) distinct

/-- Headers of elements, with the assignments behind each, put an array of tables there. -/
theorem foldlM_elements (lacks : front.Lacks name) {more : List Entries}
    (distinct : forall entries, entries ∈ more -> entries.AreDistinct) (elements : List Entries)
    (before : List Text) :
    exists path,
      (more.flatMap (elementStatements name)).foldlM add
          { entries := front.withElements name elements, path := before } =
        some { entries := front.withElements name (elements ++ more), path := path } := by
  induction more generalizing elements before with
  | nil => exact ⟨before, by simp⟩
  | cons entries more ih =>
      obtain ⟨here, there⟩ := List.forall_mem_cons.mp distinct
      obtain ⟨path, filled⟩ := ih there (elements ++ [entries]) [name]
      refine ⟨path, ?_⟩
      rw [List.flatMap_cons, List.foldlM_append, foldlM_element lacks elements here,
        List.append_cons elements entries more]
      exact filled

end Draft

end Toml
end Lexis
