import Lexis.Proofs.Settings.File
import Lexis.Proofs.Text.ByteOrder

namespace Lexis
namespace Settings

/-!
Which language settings give to a file.

Associations come first, then the settings' extensions, and then the built-in
tables; of several entries that apply the first counts, in the order of the file
or in that of the bytes (`Chooses`).  Settings that were loaded name known
languages only, so an entry that applies always gives a language.
-/

variable {settings : Settings} {path name : Text}

/-- Of all associations that match the file name this is the first. -/
def IsFirstMatch (settings : Settings) (name : Text) (association : Association) : Prop :=
  exists front back, settings.associations = front ++ association :: back ∧
    (forall earlier, earlier ∈ front -> Glob.isMatch earlier.pattern name = false) ∧
    Glob.isMatch association.pattern name = true

/-- Without the dots in front of it, the entry's name is the path's extension up to ASCII case. -/
def Overrides (path : Text) (entry : Text × Text) : Prop :=
  exists extension, Path.extension? path = some extension ∧
    Text.sameFolded (entry.1.dropWhile (· == '.')) extension = true

/-- Of all entries for the path's extension this one has the least bytes. -/
structure IsFirstOverride (settings : Settings) (path : Text) (entry : Text × Text) : Prop where
  mem : entry ∈ settings.extensions.entries
  overrides : Overrides path entry
  first : forall other, other ∈ settings.extensions.entries -> Overrides path other ->
    Utf8.encode entry.1 ≤ Utf8.encode other.1

/-- What settings of known languages give to a path with the given file name. -/
inductive Chooses (settings : Settings) (path name : Text) : Option Language -> Prop where
  | association {association : Association} {language : Language}
      (first : settings.IsFirstMatch name association)
      (known : Language.ofId? association.language = some language) :
      Chooses settings path name (some language)
  | extension {entry : Text × Text} {language : Language}
      (unmatched : forall association, association ∈ settings.associations ->
        Glob.isMatch association.pattern name = false)
      (first : settings.IsFirstOverride path entry)
      (known : Language.ofId? entry.2 = some language) :
      Chooses settings path name (some language)
  | builtIn
      (unmatched : forall association, association ∈ settings.associations ->
        Glob.isMatch association.pattern name = false)
      (unnamed : forall entry, entry ∈ settings.extensions.entries -> ¬ Overrides path entry) :
      Chooses settings path name (Language.ofPath? path)

/-! ## Looking up -/

theorem association?_eq_some_iff {association : Association} :
    settings.association? name = some association ↔ settings.IsFirstMatch name association := by
  rw [association?, List.find?_eq_some_iff_append]
  constructor
  · rintro ⟨isMatch, front, back, parts, earlier⟩
    exact ⟨front, back, parts, fun other member => by simpa using earlier other member, isMatch⟩
  · rintro ⟨front, back, parts, earlier, isMatch⟩
    exact ⟨isMatch, front, back, parts, fun other member => by simpa using earlier other member⟩

theorem association?_eq_none_iff : settings.association? name = none ↔
    forall association, association ∈ settings.associations ->
      Glob.isMatch association.pattern name = false := by
  simp [association?]

theorem overrides_iff {extension : Text} (isExtension : Path.extension? path = some extension)
    {entry : Text × Text} : Overrides path entry ↔
      Text.sameFolded (entry.1.dropWhile (· == '.')) extension = true := by
  simp [Overrides, isExtension]

/-- Entries are in order, so the one that is found first has the least bytes. -/
theorem isFirstOverride_iff {extension : Text} (isExtension : Path.extension? path = some extension)
    {entry : Text × Text} : settings.IsFirstOverride path entry ↔
      settings.extensions.entries.find? (fun entry =>
        Text.sameFolded (entry.1.dropWhile (· == '.')) extension) = some entry := by
  rw [List.find?_eq_some_iff_append]
  have ordered := settings.extensions.ordered
  constructor
  · rintro ⟨member, overrides, first⟩
    obtain ⟨front, back, parts⟩ := List.append_of_mem member
    refine ⟨(overrides_iff isExtension).mp overrides, front, back, parts, fun other inFront => ?_⟩
    rw [parts] at ordered
    have less : other.1 < entry.1 :=
      (List.pairwise_append.mp ordered).2.2 other inFront entry List.mem_cons_self
    have lessBytes := Utf8.encode_lt_encode_iff.mpr less
    have silent : ¬ Overrides path other := fun overrides =>
      first other (parts ▸ List.mem_append_left _ inFront) overrides lessBytes
    simpa [overrides_iff isExtension] using silent
  · rintro ⟨same, front, back, parts, earlier⟩
    refine ⟨parts ▸ by simp, (overrides_iff isExtension).mpr same, fun other member overrides => ?_⟩
    rw [parts] at member ordered
    rcases List.mem_append.mp member with inFront | behind
    · have silent := earlier other inFront
      rw [(overrides_iff isExtension).mp overrides] at silent
      exact absurd silent (by simp)
    · rcases List.mem_cons.mp behind with rfl | inBack
      · exact List.le_refl _
      · have less : entry.1 < other.1 :=
          (List.pairwise_cons.mp (List.pairwise_append.mp ordered).2.1).1 other inBack
        exact List.le_of_lt (Utf8.encode_lt_encode_iff.mpr less)

theorem bind_override?_eq_some_iff {language : Text} :
    (Path.extension? path).bind settings.override? = some language ↔
      exists entry, settings.IsFirstOverride path entry ∧ entry.2 = language := by
  cases isExtension : Path.extension? path with
  | none =>
      apply iff_of_false (by simp)
      rintro ⟨entry, ⟨-, ⟨extension, named, -⟩, -⟩, -⟩
      exact absurd (isExtension.symm.trans named) (by simp)
  | some extension =>
      rw [Option.bind_some, override?, Option.map_eq_some_iff]
      simp only [isFirstOverride_iff isExtension]

theorem bind_override?_eq_none_iff : (Path.extension? path).bind settings.override? = none ↔
    forall entry, entry ∈ settings.extensions.entries -> ¬ Overrides path entry := by
  cases isExtension : Path.extension? path with
  | none => simp [Overrides, isExtension]
  | some extension => simp [override?, overrides_iff isExtension]

theorem languageOf?_eq (named : Path.fileName? path = some name) :
    settings.languageOf? path = match settings.association? name with
      | some association => Language.ofId? association.language
      | none => match (Path.extension? path).bind settings.override? with
        | some language => Language.ofId? language
        | none => Language.ofPath? path := by
  rw [languageOf?, Path.extension?, Language.ofPath?, named]
  rfl

/-- There is at most one choice, whether the settings are valid or not. -/
theorem Chooses.languageOf?_eq (named : Path.fileName? path = some name)
    {answer : Option Language} (chooses : settings.Chooses path name answer) :
    settings.languageOf? path = answer := by
  rw [Settings.languageOf?_eq named]
  cases chooses with
  | association first known => rw [association?_eq_some_iff.mpr first, ← known]
  | extension unmatched first known =>
      rw [association?_eq_none_iff.mpr unmatched,
        bind_override?_eq_some_iff.mpr ⟨_, first, rfl⟩, ← known]
  | builtIn unmatched unnamed =>
      rw [association?_eq_none_iff.mpr unmatched, bind_override?_eq_none_iff.mpr unnamed]

/-- Valid settings make a choice, and entries that apply choose a language. -/
theorem IsValid.exists_chooses (valid : settings.IsValid) (path name : Text) :
    exists answer, settings.Chooses path name answer ∧
      ((exists association, association ∈ settings.associations ∧
          Glob.isMatch association.pattern name = true) ∨
        (exists entry, entry ∈ settings.extensions.entries ∧ Overrides path entry) ->
        answer.isSome = true) := by
  cases matched : settings.association? name with
  | some association =>
      have first := association?_eq_some_iff.mp matched
      have member : association ∈ settings.associations := by
        obtain ⟨front, back, parts, -⟩ := first
        exact parts ▸ by simp
      obtain ⟨language, known⟩ := Option.isSome_iff_exists.mp (valid.languages association.language
        (List.mem_append_right _ (List.mem_map_of_mem member)))
      exact ⟨some language, .association first known, fun _ => rfl⟩
  | none =>
      have unmatched := association?_eq_none_iff.mp matched
      cases overridden : (Path.extension? path).bind settings.override? with
      | some text =>
          obtain ⟨entry, first, rfl⟩ := bind_override?_eq_some_iff.mp overridden
          obtain ⟨language, known⟩ := Option.isSome_iff_exists.mp (valid.languages entry.2
            (List.mem_append_left _ (List.mem_map_of_mem first.mem)))
          exact ⟨some language, .extension unmatched first known, fun _ => rfl⟩
      | none =>
          have unnamed := bind_override?_eq_none_iff.mp overridden
          refine ⟨Language.ofPath? path, .builtIn unmatched unnamed, ?_⟩
          rintro (⟨association, member, isMatch⟩ | ⟨entry, member, overrides⟩)
          · rw [unmatched association member] at isMatch
            exact absurd isMatch (by simp)
          · exact absurd overrides (unnamed entry member)

/-! ## Settings that were loaded -/

theorem isValid_of_parse {text : Text} (parsed : parse text = .ok settings) :
    settings.IsValid := by
  rw [parse] at parsed
  split at parsed
  · exact absurd parsed (by simp)
  split at parsed
  · next passed =>
      obtain rfl := Except.ok.inj parsed
      exact validate_eq_ok_iff.mp passed
  · exact absurd parsed (by simp)

theorem isValid_of_load {content : FileContent} (loaded : load content = .ok (some settings)) :
    settings.IsValid := by
  cases content with
  | missing => exact absurd loaded (by simp [load])
  | unreadable => exact absurd loaded (by simp [load])
  | bytes bytes =>
      rw [load] at loaded
      split at loaded
      · next text _ =>
          cases parsed : parse text with
          | ok found =>
              rw [parsed] at loaded
              obtain rfl : found = settings := Option.some.inj (Except.ok.inj loaded)
              exact isValid_of_parse parsed
          | error error =>
              rw [parsed] at loaded
              exact absurd loaded (by simp [Except.map])
      · exact absurd loaded (by simp)

/--
Settings that were loaded give a path the language of the first association that
matches its name, or else of the first extension in the order of the bytes, or
else the one that the path has anyway.  What applies always gives a language.
-/
theorem languageOf?_of_load {content : FileContent} (loaded : load content = .ok (some settings))
    (named : Path.fileName? path = some name) :
    (forall answer, settings.languageOf? path = answer ↔ settings.Chooses path name answer) ∧
      ((exists association, association ∈ settings.associations ∧
          Glob.isMatch association.pattern name = true) ∨
        (exists entry, entry ∈ settings.extensions.entries ∧ Overrides path entry) ->
        (settings.languageOf? path).isSome = true) := by
  obtain ⟨chosen, chooses, isSome⟩ := (isValid_of_load loaded).exists_chooses path name
  obtain rfl := chooses.languageOf?_eq named
  refine ⟨fun answer => ⟨?_, fun other => other.languageOf?_eq named⟩, isSome⟩
  rintro rfl
  exact chooses

/-- Of two entries for one extension, the one that is written with a dot comes first. -/
theorem languageOf?_of_load_of_dotted :
    let settings : Settings :=
      { extensions := { entries := [(['.', 'h'], ['C', '+', '+']), (['H'], ['c'])]
                        ordered := by decide } }
    let path : Text := ['d', '/', 'a', '.', 'h']
    let name : Text := ['a', '.', 'h']
    load (.bytes (Utf8.encode settings.write)) = .ok (some settings) ∧
      Path.fileName? path = some name ∧ settings.Chooses path name (some .cpp) ∧
      (settings.languageOf? path).isSome = true := by
  intro settings path name
  have valid : settings.validate = .ok () := rfl
  have loaded : load (.bytes (Utf8.encode settings.write)) = .ok (some settings) := by
    rw [load_write_eq, valid]
  have named : Path.fileName? path = some name := by decide
  obtain ⟨chooses, isSome⟩ := languageOf?_of_load loaded named
  have overrides : Overrides path (['.', 'h'], ['C', '+', '+']) := ⟨['h'], by decide, by decide⟩
  have member : (['.', 'h'], ['C', '+', '+']) ∈ settings.extensions.entries := List.mem_cons_self
  exact ⟨loaded, named, (chooses (some .cpp)).mp (by decide),
    isSome (Or.inr ⟨_, member, overrides⟩)⟩

end Settings
end Lexis
