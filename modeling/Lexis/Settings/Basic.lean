import Lexis.Glob.Match
import Lexis.Language.Lookup

namespace Lexis

/-!
Settings: which languages a user gives to which files.

Settings name languages by identifiers and files by extensions or patterns,
all as the user wrote them; `Settings.validate` tells whether they all mean
something.
-/

/-- A table from names to texts, ordered by name, with each name once. -/
structure Dictionary where
  entries : List (Text × Text)
  ordered : entries.Pairwise fun first second => first.1 < second.1

namespace Dictionary

def empty : Dictionary :=
  { entries := [], ordered := List.Pairwise.nil }

/-- Puts an entry at its place among ordered ones; it replaces one of the same name. -/
def place (name value : Text) : List (Text × Text) -> List (Text × Text)
  | [] => [(name, value)]
  | entry :: entries =>
      if name < entry.1 then (name, value) :: entry :: entries
      else if entry.1 < name then entry :: place name value entries
      else (name, value) :: entries

theorem names_place {name value : Text} {entries : List (Text × Text)} {other : Text × Text}
    (member : other ∈ place name value entries) : other.1 = name ∨ other ∈ entries := by
  induction entries with
  | nil => simp_all [place]
  | cons entry entries ih =>
      simp only [place] at member
      split at member
      · rcases List.mem_cons.mp member with rfl | member
        · exact Or.inl rfl
        · exact Or.inr member
      split at member
      · rcases List.mem_cons.mp member with rfl | member
        · exact Or.inr List.mem_cons_self
        · exact (ih member).imp id (List.mem_cons_of_mem entry)
      · rcases List.mem_cons.mp member with rfl | member
        · exact Or.inl rfl
        · exact Or.inr (List.mem_cons_of_mem entry member)

theorem ordered_place (name value : Text) {entries : List (Text × Text)}
    (ordered : entries.Pairwise fun first second => first.1 < second.1) :
    (place name value entries).Pairwise fun first second => first.1 < second.1 := by
  induction entries with
  | nil => simp [place]
  | cons entry entries ih =>
      obtain ⟨below, rest⟩ := List.pairwise_cons.mp ordered
      simp only [place]
      split
      · next less =>
          refine List.pairwise_cons.mpr ⟨fun other member => ?_, ordered⟩
          rcases List.mem_cons.mp member with rfl | member
          · exact less
          · exact List.lt_trans less (below other member)
      split
      · next less =>
          refine List.pairwise_cons.mpr ⟨fun other member => ?_, ih rest⟩
          rcases names_place member with same | member
          · exact same ▸ less
          · exact below other member
      · next notBelow notAbove =>
          have same : name = entry.1 :=
            List.le_antisymm (List.not_lt.mp notAbove) (List.not_lt.mp notBelow)
          refine List.pairwise_cons.mpr ⟨fun other member => ?_, rest⟩
          exact same ▸ below other member

/-- Gives a name a text. -/
def insert (dictionary : Dictionary) (name value : Text) : Dictionary :=
  { entries := place name value dictionary.entries
    ordered := ordered_place name value dictionary.ordered }

/-- The table of the given entries; of several with one name the last counts. -/
def ofList (entries : List (Text × Text)) : Dictionary :=
  entries.foldl (fun dictionary entry => dictionary.insert entry.1 entry.2) empty

end Dictionary

/-- Files whose names match a pattern are in a language. -/
structure Association where
  pattern : Text
  language : Text
  deriving DecidableEq, Repr

structure Settings where
  /-- The languages of file extensions. -/
  extensions : Dictionary := Dictionary.empty
  /-- Come before the extensions; of several that match the first counts. -/
  associations : List Association := []

/-- What settings get wrong. -/
inductive SettingsError where
  | unknownLanguage (language : Text)
  | invalidPattern (pattern : Text) (fault : Glob.Fault)
  deriving DecidableEq, Repr

namespace Settings

/-- Every language that the settings name: those of extensions, then those of associations. -/
def languages (settings : Settings) : List Text :=
  settings.extensions.entries.map (·.2) ++ settings.associations.map (·.language)

/-- The first language that is unknown, or else the first pattern that cannot be read. -/
def validate (settings : Settings) : Except SettingsError Unit := do
  settings.languages.forM fun language =>
    if (Language.ofId? language).isSome then .ok () else .error (.unknownLanguage language)
  settings.associations.forM fun association =>
    match Glob.parts association.pattern with
    | .ok _ => .ok ()
    | .error fault => .error (.invalidPattern association.pattern fault)

/-- The association that decides on a file name. -/
def association? (settings : Settings) (name : Text) : Option Association :=
  settings.associations.find? fun association => Glob.isMatch association.pattern name

/-- The language text of an extension; dots before the settings' extensions do not count. -/
def override? (settings : Settings) (extension : Text) : Option Text :=
  let matching := settings.extensions.entries.find? fun entry =>
    Text.sameFolded (entry.1.dropWhile (· == '.')) extension
  matching.map (·.2)

/-- The language of a file name: by association, by extension, or by the built-in tables. -/
def languageOfName? (settings : Settings) (name : Text) : Option Language :=
  match settings.association? name with
  | some association => Language.ofId? association.language
  | none =>
      match (Path.extensionOf? name).bind settings.override? with
      | some language => Language.ofId? language
      | none => Language.ofName? name

/-- The language of the file a path leads to. -/
def languageOf? (settings : Settings) (path : Text) : Option Language :=
  (Path.fileName? path).bind settings.languageOfName?

end Settings
end Lexis
