import Lexis.Proofs.Settings.Valid
import Lexis.Proofs.Text.Utf8
import Lexis.Proofs.Toml.Document
import Lexis.Proofs.Toml.Written
import Lexis.Settings.File

namespace Lexis

/-!
Settings that were written are read back.

The file's lines are those of one table and of an array of tables
(`yields_write`), which the reader takes for just these entries (`read?_write`),
and the entries stand for the settings (`ofEntries?_entries`).  So what comes back
depends on the settings alone: they themselves, or their first fault.
-/

/-! ## Dictionaries -/

namespace Dictionary

theorem eq_of_entries {first second : Dictionary} (same : first.entries = second.entries) :
    first = second := by
  cases first
  cases second
  cases same
  rfl

/-- A name behind all others comes last. -/
theorem place_of_lt {name : Text} {entries : List (Text × Text)}
    (behind : forall entry, entry ∈ entries -> entry.1 < name) (value : Text) :
    place name value entries = entries ++ [(name, value)] := by
  induction entries with
  | nil => rfl
  | cons entry entries ih =>
      obtain ⟨less, others⟩ := List.forall_mem_cons.mp behind
      rw [place, if_neg (List.lt_asymm less), if_pos less, ih others]
      rfl

theorem foldl_insert {entries : List (Text × Text)} (dictionary : Dictionary)
    (ordered : (dictionary.entries ++ entries).Pairwise fun first second => first.1 < second.1) :
    (entries.foldl (fun dictionary entry => dictionary.insert entry.1 entry.2) dictionary).entries =
      dictionary.entries ++ entries := by
  induction entries generalizing dictionary with
  | nil => simp
  | cons entry entries ih =>
      have behind : forall earlier, earlier ∈ dictionary.entries -> earlier.1 < entry.1 :=
        fun earlier member =>
          (List.pairwise_append.mp ordered).2.2 earlier member entry List.mem_cons_self
      have inserted : (dictionary.insert entry.1 entry.2).entries = dictionary.entries ++ [entry] :=
        place_of_lt behind entry.2
      rw [List.append_cons] at ordered ⊢
      rw [List.foldl_cons, ← inserted]
      exact ih _ (inserted ▸ ordered)

/-- The table of a dictionary's entries is that dictionary. -/
theorem ofList_entries (dictionary : Dictionary) : ofList dictionary.entries = dictionary :=
  eq_of_entries (foldl_insert empty dictionary.ordered)

end Dictionary

namespace Settings

open Toml

/-! ## Entries -/

/-- The entries of the table of extensions. -/
def extensionEntries (extensions : Dictionary) : Entries :=
  extensions.entries.map fun entry => (entry.1, .string entry.2)

/-- The entries of an association's table. -/
def associationEntries (association : Association) : Entries :=
  [(patternKey, .string association.pattern), (languageKey, .string association.language)]

/-- The table of extensions, unless there are none. -/
def extensionTable (extensions : Dictionary) : Entries :=
  if extensions.entries.isEmpty then []
  else [(extensionsKey, .table .header (extensionEntries extensions))]

/-- The entries of the file for the settings. -/
def entries (settings : Settings) : Entries :=
  (extensionTable settings.extensions).withElements associationsKey
    (settings.associations.map associationEntries)

theorem lacks_extensionTable (extensions : Dictionary) :
    (extensionTable extensions).Lacks associationsKey := by
  rw [extensionTable]
  split
  · exact Entries.Lacks.nil associationsKey
  · intro entry member
    obtain rfl := List.mem_singleton.mp member
    show extensionsKey ≠ associationsKey
    decide

theorem areDistinct_extensionEntries (extensions : Dictionary) :
    (extensionEntries extensions).AreDistinct := by
  refine List.pairwise_map.mpr (extensions.ordered.imp fun less same => ?_)
  exact List.lt_irrefl _ (same ▸ less)

theorem areDistinct_associationEntries (association : Association) :
    (associationEntries association).AreDistinct := by
  have different : patternKey ≠ languageKey := by decide
  simp [associationEntries, Entries.AreDistinct, different]

/-- Items that are read back one by one are read back together. -/
theorem mapM_map_eq_some {Item Written : Type} {write : Item -> Written}
    {read : Written -> Option Item} (readsBack : forall item, read (write item) = some item)
    (items : List Item) : (items.map write).mapM read = some items := by
  induction items with
  | nil => rfl
  | cons item items ih =>
      rw [List.map_cons, List.mapM_cons, readsBack, ih]
      rfl

theorem extensionsOf?_extensionEntries (origin : Origin) (extensions : Dictionary) :
    extensionsOf? (some (.table origin (extensionEntries extensions))) = some extensions := by
  have read : (extensionEntries extensions).mapM
      (fun entry => (stringOf? entry.2).map fun text => (entry.1, text)) =
        some extensions.entries := by
    rw [extensionEntries]
    refine mapM_map_eq_some ?_ extensions.entries
    intro entry
    rfl
  rw [extensionsOf?, read, Option.map_some, Dictionary.ofList_entries]

theorem associationOf?_associationEntries (association : Association) :
    associationOf? (associationEntries association) = some association := by
  have different : patternKey ≠ languageKey := by decide
  have storable : Entries.othersStorable [patternKey, languageKey]
      (associationEntries association) = true := by
    simp [Entries.othersStorable, associationEntries]
  have pattern : (associationEntries association).find? patternKey =
      some (.string association.pattern) := by
    simp [Entries.find?, associationEntries]
  have language : (associationEntries association).find? languageKey =
      some (.string association.language) := by
    simp [Entries.find?, associationEntries, different]
  rw [associationOf?, storable, pattern, language]
  rfl

theorem extensionsOf?_entries (settings : Settings) :
    extensionsOf? (settings.entries.find? extensionsKey) = some settings.extensions := by
  have different : associationsKey ≠ extensionsKey := by decide
  rw [entries, Entries.find?_withElements_of_ne different, extensionTable]
  split
  · next none =>
      have empty : settings.extensions = Dictionary.empty :=
        Dictionary.eq_of_entries (List.isEmpty_iff.mp none)
      rw [empty]
      rfl
  · have table := extensionsOf?_extensionEntries .header settings.extensions
    simpa [Entries.find?] using table

theorem associationsOf?_entries (settings : Settings) :
    associationsOf? (settings.entries.find? associationsKey) = some settings.associations := by
  rw [entries, Entries.find?_withElements (lacks_extensionTable settings.extensions)]
  split
  · next none =>
      have empty : settings.associations = [] := by simpa using none
      rw [empty]
      rfl
  · exact mapM_map_eq_some associationOf?_associationEntries settings.associations

theorem othersStorable_entries (settings : Settings) :
    Entries.othersStorable [extensionsKey, associationsKey] settings.entries = true := by
  rw [Entries.othersStorable, entries, Entries.withElements, extensionTable]
  split
  · split
    · rfl
    · simp
  · split
    · simp
    · simp

theorem ofEntries?_entries (settings : Settings) : ofEntries? settings.entries = some settings := by
  rw [ofEntries?, othersStorable_entries, extensionsOf?_entries, associationsOf?_entries]
  rfl

/-! ## Lines -/

/-- The statements of the table of extensions, unless there are none. -/
def extensionStatements (extensions : Dictionary) : List Statement :=
  if extensions.entries.isEmpty then []
  else tableStatements extensionsKey (extensionEntries extensions)

/-- The statements of the file for the settings. -/
def statements (settings : Settings) : List Statement :=
  extensionStatements settings.extensions ++
    (settings.associations.map associationEntries).flatMap (elementStatements associationsKey)

theorem foldlM_extensionStatements (extensions : Dictionary) :
    exists path, (extensionStatements extensions).foldlM Draft.add {} =
      some { entries := extensionTable extensions, path := path } := by
  rw [extensionStatements, extensionTable]
  split
  · exact ⟨[], rfl⟩
  · exact ⟨[extensionsKey], Draft.foldlM_table (Entries.Lacks.nil extensionsKey)
      (areDistinct_extensionEntries extensions) []⟩

theorem foldlM_statements (settings : Settings) :
    exists path, settings.statements.foldlM Draft.add {} =
      some { entries := settings.entries, path := path } := by
  obtain ⟨opened, table⟩ := foldlM_extensionStatements settings.extensions
  have distinct : forall entries, entries ∈ settings.associations.map associationEntries ->
      entries.AreDistinct := by
    intro entries member
    obtain ⟨association, -, rfl⟩ := List.mem_map.mp member
    exact areDistinct_associationEntries association
  obtain ⟨path, elements⟩ :=
    Draft.foldlM_elements (lacks_extensionTable settings.extensions) distinct [] opened
  refine ⟨path, ?_⟩
  rw [statements, List.foldlM_append, table]
  exact elements

theorem yields_writeEntry (name text : Text) :
    Yields (writeEntry name text) (assignments [(name, .string text)]) :=
  Yields.assignment name text

theorem yields_writeEntries (entries : List (Text × Text)) :
    Yields (entries.flatMap fun entry => writeEntry entry.1 entry.2)
      (assignments (entries.map fun entry => (entry.1, .string entry.2))) := by
  rw [assignments, List.map_map, List.map_eq_flatMap]
  exact Yields.flatMap (fun entry : Text × Text => yields_writeEntry entry.1 entry.2) entries

theorem writeKey_associationsKey : writeKey associationsKey = associationsKey :=
  if_pos (by decide)

theorem writeKey_extensionsKey : writeKey extensionsKey = extensionsKey :=
  if_pos (by decide)

theorem yields_associationBlock (association : Association) :
    Yields (associationBlock association)
      (elementStatements associationsKey (associationEntries association)) := by
  have header := Yields.element associationsKey
  rw [writeKey_associationsKey] at header
  have pattern := header.append (yields_writeEntry patternKey association.pattern)
  exact pattern.append (yields_writeEntry languageKey association.language)

theorem yields_associations (associations : List Association) :
    Yields (List.intercalate ['\n'] (associations.map associationBlock))
      ((associations.map associationEntries).flatMap (elementStatements associationsKey)) := by
  induction associations with
  | nil => exact Yields.nil
  | cons association associations ih =>
      exact (yields_associationBlock association).intercalate_cons ih

theorem yields_extensionBlock (extensions : Dictionary) :
    Yields (['['] ++ extensionsKey ++ [']', '\n'] ++
        extensions.entries.flatMap fun entry => writeEntry entry.1 entry.2)
      (tableStatements extensionsKey (extensionEntries extensions)) := by
  have header := Yields.table extensionsKey
  rw [writeKey_extensionsKey] at header
  exact header.append (yields_writeEntries extensions.entries)

theorem yields_write (settings : Settings) : Yields settings.write settings.statements := by
  rw [write, extensionBlocks, statements, extensionStatements]
  split
  · exact yields_associations settings.associations
  · have block := yields_extensionBlock settings.extensions
    exact block.intercalate_cons (yields_associations settings.associations)

/-- Text that begins with a header has no byte order mark. -/
theorem withoutMark_intercalate (tail : Text) (blocks : List Text) :
    withoutMark (List.intercalate ['\n'] (('[' :: tail) :: blocks)) =
      List.intercalate ['\n'] (('[' :: tail) :: blocks) := by
  cases blocks with
  | nil =>
      rw [List.intercalate_singleton]
      rfl
  | cons block blocks =>
      rw [List.intercalate_cons_cons]
      rfl

theorem withoutMark_write (settings : Settings) : withoutMark settings.write = settings.write := by
  rw [write, extensionBlocks]
  split
  · cases settings.associations with
    | nil => rfl
    | cons association associations => exact withoutMark_intercalate _ _
  · exact withoutMark_intercalate _ _

theorem read?_write (settings : Settings) : read? settings.write = some settings.entries := by
  obtain ⟨path, filled⟩ := foldlM_statements settings
  rw [read?, withoutMark_write, (yields_write settings).statements_eq, Option.bind_eq_bind,
    Option.bind_some, filled]
  rfl

/-- What is loaded depends on nothing but what validation says. -/
theorem load_write_eq (settings : Settings) :
    load (.bytes (Utf8.encode settings.write)) =
      match settings.validate with
      | .ok () => .ok (some settings)
      | .error error => .error (.invalid error) := by
  have read : (read? settings.write).bind ofEntries? = some settings := by
    rw [read?_write, Option.bind_some, ofEntries?_entries]
  simp only [load, Utf8.decode_encode, parse, read]
  cases settings.validate with
  | ok => rfl
  | error => rfl

/-- Saved settings are loaded again if they are valid, and their first fault is told if not. -/
theorem load_write (settings : Settings) :
    (load (.bytes (Utf8.encode settings.write)) = .ok (some settings) ↔ settings.IsValid) ∧
      (forall error, load (.bytes (Utf8.encode settings.write)) = .error (.invalid error) ↔
        settings.FirstFault error) ∧
      (settings.IsValid ∨ exists error, settings.FirstFault error) := by
  refine ⟨?_, fun error => ?_, settings.isValid_or_firstFault⟩
  · rw [← validate_eq_ok_iff, load_write_eq]
    cases settings.validate with
    | ok => simp
    | error => simp
  · rw [← validate_eq_error_iff, load_write_eq]
    cases settings.validate with
    | ok => simp
    | error => simp

end Settings
end Lexis
