import Lexis.Settings.Basic

namespace Lexis

/-!
What validation finds in settings.

Languages are looked at before patterns, and either in their order, so the fault
that is reported is the first of its kind.  Settings without a fault are valid,
and all others have one (`isValid_or_firstFault`).
-/

section Traversal

variable {Element Fault : Type} {check : Element -> Except Fault Unit} {elements : List Element}

theorem forM_cons_eq (first : Element) (others : List Element) :
    (first :: others).forM check = (check first).bind fun _ => others.forM check := rfl

theorem forM_eq_ok_iff :
    elements.forM check = .ok () ↔
      forall element, element ∈ elements -> check element = .ok () := by
  induction elements with
  | nil => exact iff_of_true rfl fun _ member => absurd member (by simp)
  | cons first others ih =>
      rw [forM_cons_eq, List.forall_mem_cons]
      cases checked : check first with
      | ok _ => simpa [Except.bind] using ih
      | error _ => simp [Except.bind]

/-- The fault is that of the first element with a fault. -/
theorem forM_eq_error_iff {fault : Fault} :
    elements.forM check = .error fault ↔
      exists front element back, elements = front ++ element :: back ∧
        (forall earlier, earlier ∈ front -> check earlier = .ok ()) ∧
        check element = .error fault := by
  induction elements with
  | nil =>
      apply iff_of_false
      · rintro ⟨⟩
      · rintro ⟨front, element, back, parts, -⟩
        exact absurd parts (by simp)
  | cons first others ih =>
      rw [forM_cons_eq]
      cases checked : check first with
      | error other =>
          constructor
          · rintro ⟨⟩
            exact ⟨[], first, others, rfl, fun _ member => absurd member (by simp), checked⟩
          · rintro ⟨front, element, back, parts, passed, failed⟩
            cases front with
            | nil =>
                obtain ⟨rfl, -⟩ := List.cons.inj parts
                rw [checked] at failed
                exact congrArg _ (Except.error.inj failed)
            | cons earlier front =>
                obtain ⟨rfl, -⟩ := List.cons.inj parts
                exact absurd (passed first List.mem_cons_self) (by simp [checked])
      | ok _ =>
          refine Iff.trans ih ?_
          constructor
          · rintro ⟨front, element, back, rfl, passed, failed⟩
            exact ⟨first :: front, element, back, rfl,
              List.forall_mem_cons.mpr ⟨checked, passed⟩, failed⟩
          · rintro ⟨front, element, back, parts, passed, failed⟩
            cases front with
            | nil =>
                obtain ⟨rfl, -⟩ := List.cons.inj parts
                exact absurd failed (by simp [checked])
            | cons earlier front =>
                obtain ⟨rfl, rfl⟩ := List.cons.inj parts
                exact ⟨front, element, back, rfl, (List.forall_mem_cons.mp passed).2, failed⟩

end Traversal

namespace Settings

/-- The text names a language by its identifier or its display name. -/
def IsKnown (language : Text) : Prop :=
  (Language.ofId? language).isSome = true

/-- The text can be read as a pattern. -/
def IsPattern (pattern : Text) : Prop :=
  exists parts, Glob.parts pattern = .ok parts

/-- Every language is known, and every pattern can be read. -/
structure IsValid (settings : Settings) : Prop where
  languages : forall language, language ∈ settings.languages -> IsKnown language
  patterns : forall association, association ∈ settings.associations ->
    IsPattern association.pattern

/-- The fault that is found first: that of a language, or that of a pattern if all are known. -/
inductive FirstFault (settings : Settings) : SettingsError -> Prop where
  | language {front back : List Text} {language : Text}
      (parts : settings.languages = front ++ language :: back)
      (known : forall earlier, earlier ∈ front -> IsKnown earlier)
      (unknown : ¬ IsKnown language) : FirstFault settings (.unknownLanguage language)
  | pattern {front back : List Association} {association : Association} {fault : Glob.Fault}
      (known : forall language, language ∈ settings.languages -> IsKnown language)
      (parts : settings.associations = front ++ association :: back)
      (read : forall earlier, earlier ∈ front -> IsPattern earlier.pattern)
      (unreadable : Glob.parts association.pattern = .error fault) :
      FirstFault settings (.invalidPattern association.pattern fault)

variable {settings : Settings} {error : SettingsError}

/-- The check of one language. -/
def checkLanguage (language : Text) : Except SettingsError Unit :=
  if (Language.ofId? language).isSome then .ok () else .error (.unknownLanguage language)

/-- The check of one association's pattern. -/
def checkPattern (association : Association) : Except SettingsError Unit :=
  match Glob.parts association.pattern with
  | .ok _ => .ok ()
  | .error fault => .error (.invalidPattern association.pattern fault)

theorem validate_eq : settings.validate =
    (settings.languages.forM checkLanguage).bind fun _ =>
      settings.associations.forM checkPattern := rfl

theorem checkLanguage_eq_ok_iff {language : Text} :
    checkLanguage language = .ok () ↔ IsKnown language := by
  rw [checkLanguage, IsKnown]
  split
  · next known => simp [known]
  · next unknown => simp [unknown]

theorem checkLanguage_eq_error_iff {language : Text} :
    checkLanguage language = .error error ↔
      ¬ IsKnown language ∧ error = .unknownLanguage language := by
  rw [checkLanguage, IsKnown]
  split
  · next known => simp [known]
  · next unknown => simp [unknown, eq_comm]

theorem checkPattern_eq_ok_iff {association : Association} :
    checkPattern association = .ok () ↔ IsPattern association.pattern := by
  rw [checkPattern, IsPattern]
  split
  · next parts read => simp [read]
  · next fault unreadable => simp [unreadable]

theorem checkPattern_eq_error_iff {association : Association} :
    checkPattern association = .error error ↔
      exists fault, Glob.parts association.pattern = .error fault ∧
        error = .invalidPattern association.pattern fault := by
  rw [checkPattern]
  split
  · next parts read => simp [read]
  · next fault unreadable => simp [unreadable, eq_comm]

theorem forM_checkLanguage_eq_ok_iff : settings.languages.forM checkLanguage = .ok () ↔
    forall language, language ∈ settings.languages -> IsKnown language := by
  simp only [forM_eq_ok_iff, checkLanguage_eq_ok_iff]

theorem forM_checkPattern_eq_ok_iff : settings.associations.forM checkPattern = .ok () ↔
    forall association, association ∈ settings.associations -> IsPattern association.pattern := by
  simp only [forM_eq_ok_iff, checkPattern_eq_ok_iff]

theorem validate_eq_ok_iff : settings.validate = .ok () ↔ settings.IsValid := by
  rw [validate_eq]
  cases checked : settings.languages.forM checkLanguage with
  | ok _ =>
      have known := forM_checkLanguage_eq_ok_iff.mp checked
      refine Iff.trans forM_checkPattern_eq_ok_iff ?_
      exact ⟨fun patterns => ⟨known, patterns⟩, fun valid => valid.patterns⟩
  | error fault =>
      apply iff_of_false
      · rintro ⟨⟩
      · intro valid
        have passed := forM_checkLanguage_eq_ok_iff.mpr valid.languages
        rw [checked] at passed
        exact absurd passed (by simp)

theorem validate_eq_error_iff : settings.validate = .error error ↔ settings.FirstFault error := by
  rw [validate_eq]
  cases checked : settings.languages.forM checkLanguage with
  | ok _ =>
      have known := forM_checkLanguage_eq_ok_iff.mp checked
      refine Iff.trans forM_eq_error_iff ?_
      constructor
      · rintro ⟨front, association, back, parts, passed, failed⟩
        obtain ⟨fault, unreadable, rfl⟩ := checkPattern_eq_error_iff.mp failed
        exact .pattern known parts
          (fun earlier member => checkPattern_eq_ok_iff.mp (passed earlier member)) unreadable
      · intro first
        cases first with
        | language parts _ unknown =>
            exact absurd (known _ (parts ▸ by simp)) unknown
        | pattern _ parts read unreadable =>
            exact ⟨_, _, _, parts,
              fun earlier member => checkPattern_eq_ok_iff.mpr (read earlier member),
              checkPattern_eq_error_iff.mpr ⟨_, unreadable, rfl⟩⟩
  | error fault =>
      obtain ⟨front, language, back, parts, passed, failed⟩ := forM_eq_error_iff.mp checked
      obtain ⟨unknown, rfl⟩ := checkLanguage_eq_error_iff.mp failed
      have known := fun earlier member => checkLanguage_eq_ok_iff.mp (passed earlier member)
      constructor
      · rintro ⟨⟩
        exact .language parts known unknown
      · intro first
        have reported : settings.languages.forM checkLanguage = .error error := by
          cases first with
          | language parts known unknown =>
              refine forM_eq_error_iff.mpr ⟨_, _, _, parts, fun earlier member => ?_,
                checkLanguage_eq_error_iff.mpr ⟨unknown, rfl⟩⟩
              exact checkLanguage_eq_ok_iff.mpr (known earlier member)
          | pattern known _ _ _ => exact absurd (known language (parts ▸ by simp)) unknown
        rw [checked] at reported
        exact congrArg _ (Except.error.inj reported)

/-- Settings that are not valid have a first fault. -/
theorem isValid_or_firstFault (settings : Settings) :
    settings.IsValid ∨ exists error, settings.FirstFault error := by
  cases checked : settings.validate with
  | ok _ => exact Or.inl (validate_eq_ok_iff.mp checked)
  | error error => exact Or.inr ⟨error, validate_eq_error_iff.mp checked⟩

end Settings
end Lexis
