import Lexis.Proofs.Glob.Folding
import Lexis.Settings.Basic
import Mathlib.Data.List.Find

namespace Lexis

/-!
Renaming a file to the same name in other case.

Whether by pattern, by extension or by the built-in tables, a language is found
for a file name as for its folded form.  So it does not change if the case of
some letters does, nor if the file is moved to another directory
(`Settings.languageOf?_eq_of_folded`).
-/

namespace Language

theorem ofExtension?_of_ne {head : Char} (notDot : head ≠ '.') (tail : Text) :
    ofExtension? (head :: tail) = all.find? fun language =>
      language.extensions.any fun known => Text.sameFolded known.toList (head :: tail) := by
  rw [ofExtension?]
  exact fun _ same => notDot (List.cons.inj same).1

theorem ignoresCase_ofExtension? : IgnoresCase ofExtension? := by
  intro key
  cases key with
  | nil => rfl
  | cons head tail =>
      by_cases dot : head = '.'
      · subst dot
        show ofExtension? ('.' :: Text.folded tail) = ofExtension? ('.' :: tail)
        simp only [ofExtension?, ignoresCase_sameFolded _ tail]
      · have stillNoDot : foldCase head ≠ '.' := mt (foldCase_eq_iff rfl).mp dot
        have same := fun known => ignoresCase_sameFolded known (head :: tail)
        rw [Text.folded, List.map_cons] at same ⊢
        simp only [ofExtension?_of_ne stillNoDot, ofExtension?_of_ne dot, same]

theorem ignoresCase_ofFileName? : IgnoresCase ofFileName? := by
  intro name
  simp only [ofFileName?, ignoresCase_sameFolded _ name]

theorem ignoresCase_ofName? : IgnoresCase ofName? := by
  intro name
  rw [ofName?, ofName?, ignoresCase_ofFileName? name, Path.extensionOf?_folded,
    ignoresCase_ofExtension?.bind_map_folded]

end Language

namespace Settings

variable {settings : Settings}

theorem ignoresCase_override? (settings : Settings) : IgnoresCase settings.override? := by
  intro extension
  simp only [override?, ignoresCase_sameFolded _ extension]

theorem ignoresCase_association?
    (noClass : forall association, association ∈ settings.associations ->
      '[' ∉ association.pattern) :
    IgnoresCase settings.association? := by
  intro name
  apply List.find?_congr
  intro association member
  exact Glob.ignoresCase_isMatch (noClass association member) name

theorem ignoresCase_languageOfName?
    (noClass : forall association, association ∈ settings.associations ->
      '[' ∉ association.pattern) :
    IgnoresCase settings.languageOfName? := by
  intro name
  rw [languageOfName?, languageOfName?, ignoresCase_association? noClass name,
    Path.extensionOf?_folded, settings.ignoresCase_override?.bind_map_folded,
    Language.ignoresCase_ofName? name]

/--
Settings without character classes, whether they mean something or not, give the
same language to paths whose last components are equal up to the case of ASCII
letters, and so do the built-in tables.
-/
theorem languageOf?_eq_of_folded
    (noClass : forall association, association ∈ settings.associations ->
      '[' ∉ association.pattern)
    {first second : Text}
    (same : (Path.components first).getLast?.map Text.folded =
      (Path.components second).getLast?.map Text.folded) :
    settings.languageOf? first = settings.languageOf? second ∧
      Language.ofPath? first = Language.ofPath? second := by
  have sameNames := Path.fileName?_map_folded same
  exact ⟨(ignoresCase_languageOfName? noClass).bind_eq sameNames,
    Language.ignoresCase_ofName?.bind_eq sameNames⟩

/-- A pattern, an entry and the built-in table each find the file in its new case and place. -/
theorem languageOf?_eq_of_folded_of_moved :
    let settings : Settings :=
      { extensions := Dictionary.ofList [("..iNc".toList, "PHP".toList)]
        associations := [{ pattern := "Build*".toList, language := "shell".toList }] }
    (settings.languageOf? "a/BUILD.inc".toList = some .shell ∧
        settings.languageOf? "a/BUILD.inc".toList = settings.languageOf? "/b/build.INC".toList) ∧
      (settings.languageOf? "x.Inc".toList = some .php ∧
        settings.languageOf? "x.Inc".toList = settings.languageOf? "./c/X.inC/".toList) ∧
      Language.ofPath? "dockerFILE".toList = some .dockerfile ∧
        Language.ofPath? "dockerFILE".toList = Language.ofPath? "d//Dockerfile".toList := by
  intro settings
  have noClass : forall association, association ∈ settings.associations ->
      '[' ∉ association.pattern := by decide
  exact ⟨⟨by decide +kernel, (languageOf?_eq_of_folded noClass (by decide +kernel)).1⟩,
    ⟨by decide +kernel, (languageOf?_eq_of_folded noClass (by decide +kernel)).1⟩,
    by decide +kernel, (languageOf?_eq_of_folded noClass (by decide +kernel)).2⟩

end Settings
end Lexis
