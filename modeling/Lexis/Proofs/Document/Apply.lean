import Lexis.Document.Query
import Lexis.Proofs.Document.Reachable
import Lexis.Proofs.Rescan.Fits
import Lexis.Proofs.Text.Utf8

namespace Lexis

/-!
What edits do to a document, and what is told about it.

An edit is refused and changes nothing, or it replaces a part of the text and its
patch tells where (`apply_refuses_or_reports`).  A patch is made from a rescan or
from a scan of the whole text.  Either way it is about a range of lines that has
the edited ones in it (`applyEdit_coversLines`), and it counts the lines that
were added as the texts do (`applyEdit_lineDelta`).
-/

/-- The patch is about a range of lines of the text, and the span lies in these lines. -/
structure Patch.CoversLines (patch : Patch) (text : Text) (edited : Span) : Prop where
  first : patch.rescannedLines.start ≤ text.lineOf edited.start
  last : text.lineOf edited.stop < patch.rescannedLines.stop
  inside : patch.rescannedLines.stop ≤ text.lineFeeds + 1
  rescanned : patch.rescanned =
    { start := text.lineStart patch.rescannedLines.start
      stop := text.lineStart patch.rescannedLines.stop }

/-- The changed document and the patch are what an edit must make of a document. -/
structure Patch.Reports (patch : Patch) (edit : Edit) (document changed : Document) : Prop where
  text : changed.text =
    document.text.before edit.span.start ++ edit.text ++ document.text.after edit.span.stop
  bytes : changed.bytes = document.bytes.take edit.span.start ++ Utf8.encode edit.text ++
    document.bytes.drop edit.span.stop
  valid : Utf8.decode changed.bytes = .ok changed.text
  language : changed.language = document.language
  version : changed.version = document.version + 1
  patchVersion : patch.version = changed.version
  edited : patch.edited =
    { start := edit.span.start, stop := edit.span.start + edit.text.size }
  lineDelta : patch.lineDelta = (changed.text.lineFeeds : Int) - document.text.lineFeeds
  lines : patch.CoversLines changed.text patch.edited
  bytesBefore : patch.rescanned.start ≤ patch.edited.start
  bytesBehind : patch.edited.stop ≤ patch.rescanned.stop

/-- The bytes of an edited text are spliced as its characters are. -/
theorem Edit.Fits.encode_applyTo {edit : Edit} {text : Text} (fits : edit.Fits text) :
    Utf8.encode (edit.applyTo text) =
      (Utf8.encode text).take edit.span.start ++ Utf8.encode edit.text ++
        (Utf8.encode text).drop edit.span.stop := by
  rcases bounds_of_accepted fits.error?_eq with ⟨-, start, stop⟩
  rw [applyTo, Utf8.encode_append, Utf8.encode_append, (Utf8.encode_cut start).1,
    (Utf8.encode_cut stop).2]

/-- Lines that a span lies in contain its bytes, if it begins and ends between characters. -/
theorem Patch.CoversLines.contains {patch : Patch} {text : Text} {edited : Span}
    (coversLines : patch.CoversLines text edited) (start : text.IsBoundary edited.start)
    (stop : text.IsBoundary edited.stop) :
    patch.rescanned.start ≤ edited.start ∧ edited.stop ≤ patch.rescanned.stop := by
  have firstStart := Text.lineStart_mono coversLines.first text
  have lastStop := Text.lineStart_mono coversLines.last text
  rw [coversLines.rescanned]
  exact ⟨Nat.le_trans firstStart start.lineStart_le, Nat.le_trans stop.le_lineStart lastStop⟩

namespace Document

/-! ## Accepted edits -/

/-- Whatever is scanned, the edit is one more version of the document in its language. -/
theorem applyEdit_versions (document : Document) (edit : Edit) :
    (document.applyEdit edit).2.language = document.language ∧
      (document.applyEdit edit).2.version = document.version + 1 ∧
      (document.applyEdit edit).1.version = document.version + 1 ∧
      (document.applyEdit edit).1.edited = edit.inserted := by
  rcases applyEdit_eq document edit with anew | ⟨result, -, -, spliced⟩
  · rw [anew]
    exact ⟨rfl, rfl, rfl, rfl⟩
  · rw [spliced]
    exact ⟨rfl, rfl, rfl, rfl⟩

theorem IsFresh.count_le {document : Document} (isFresh : document.IsFresh) :
    document.cached.count ≤ maxOffset := by
  rw [isFresh.count_cached, lineCount, ← Text.length_lines]
  exact isFresh.storable.length_lines_le

theorem IsFresh.count_rescanned {document : Document} (isFresh : document.IsFresh) (edit : Edit) :
    (document.rescanned edit).cached.count = (edit.applyTo document.text).lineFeeds + 1 := by
  rw [rescanned, isFresh.ofLanguage]
  exact count_ofLanguage document.language (edit.applyTo document.text)

theorem applyEdit_lineDelta {document : Document} (isFresh : document.IsFresh) (edit : Edit) :
    (document.applyEdit edit).1.lineDelta =
      ((edit.applyTo document.text).lineFeeds : Int) - document.text.lineFeeds := by
  have oldCount := isFresh.count_cached
  have newCount := isFresh.count_rescanned edit
  rw [lineCount] at oldCount
  rcases applyEdit_eq document edit with anew | ⟨result, -, found, spliced⟩
  · rw [anew]
    simp only [fullPatch, newCount, oldCount]
    omega
  · have fits := Highlighter.rescan_fits isFresh.count_le found
    rw [spliced]
    simp only [splicedPatch, fits.lineDelta, oldCount]
    omega

theorem applyEdit_coversLines {document : Document} (isFresh : document.IsFresh) (edit : Edit) :
    (document.applyEdit edit).1.CoversLines (edit.applyTo document.text) edit.inserted := by
  rcases applyEdit_eq document edit with anew | ⟨result, -, found, spliced⟩
  · have newCount := isFresh.count_rescanned edit
    rw [← Text.length_lines] at newCount
    rw [anew]
    constructor
    · exact Nat.zero_le _
    · simp only [fullPatch, newCount]
      exact Text.lineOf_lt _ _
    · rw [← Text.length_lines]
      exact Nat.le_of_eq newCount
    · simp only [fullPatch, newCount, Text.lineStart_length_lines]
      rfl
  · have fits := Highlighter.rescan_fits isFresh.count_le found
    rw [spliced]
    exact ⟨Nat.le_of_eq fits.start, fits.editedLast, fits.inside, fits.span⟩

theorem applyEdit_reports {document : Document} {edit : Edit} (isFresh : document.IsFresh)
    (fits : edit.Fits document.text) :
    (document.applyEdit edit).1.Reports edit document (document.applyEdit edit).2 := by
  rcases Edit.divides_of_accepted fits.error?_eq with ⟨front, removed, back, divides⟩
  rcases applyEdit_versions document edit with ⟨language, version, patchVersion, edited⟩
  have text := applyEdit_text document edit
  have coversLines := applyEdit_coversLines isFresh edit
  have contains := coversLines.contains divides.isBoundary_start divides.isBoundary_stop
  constructor
  · exact text
  · rw [bytes, text]
    exact fits.encode_applyTo
  · exact Utf8.decode_encode _
  · exact language
  · exact version
  · exact patchVersion.trans version.symm
  · exact edited
  · rw [text]
    exact applyEdit_lineDelta isFresh edit
  · rw [text, edited]
    exact coversLines
  · rw [edited]
    exact contains.1
  · rw [edited]
    exact contains.2

/-! ## All edits -/

theorem apply_of_fits (document : Document) {edit : Edit} (fits : edit.Fits document.text) :
    document.apply edit = .ok (document.applyEdit edit) := by
  rw [apply, fits.error?_eq]

theorem apply_eq_error_iff {document : Document} {edit : Edit} {error : EditError} :
    document.apply edit = .error error ↔ edit.Refused document.text error := by
  rw [← Edit.error?_eq_some_iff, apply]
  cases edit.error? document.text with
  | none => simp
  | some other => simp

theorem apply_eq_ok_iff {document : Document} {edit : Edit} {result : Patch × Document} :
    document.apply edit = .ok result ↔
      edit.Fits document.text ∧ document.applyEdit edit = result := by
  rw [← Edit.error?_eq_none_iff, apply]
  cases edit.error? document.text with
  | none => simp
  | some error => simp

theorem perform_of_fits (document : Document) {edit : Edit} (fits : edit.Fits document.text) :
    document.perform (.edit edit) = (document.applyEdit edit).2 := by
  simp only [perform, document.apply_of_fits fits]

theorem perform_of_error {document : Document} {edit : Edit} {error : EditError}
    (refused : document.apply edit = .error error) : document.perform (.edit edit) = document := by
  simp only [perform, refused]

/-- The text and the version after an edit of them; an edit that does not fit is left out. -/
def spliced (state : Text × Nat) (edit : Edit) : Text × Nat :=
  if edit.Fits state.1 then
    (state.1.before edit.span.start ++ edit.text ++ state.1.after edit.span.stop, state.2 + 1)
  else state

theorem perform_eq_spliced (document : Document) (edit : Edit) :
    ((document.perform (.edit edit)).text, (document.perform (.edit edit)).version) =
      spliced (document.text, document.version) edit := by
  rcases Edit.fits_or_refused edit document.text with fits | ⟨error, refused⟩
  · rcases applyEdit_versions document edit with ⟨-, version, -, -⟩
    rw [spliced, if_pos fits, document.perform_of_fits fits, applyEdit_text, version]
    rfl
  · have misfit : ¬ edit.Fits document.text := by
      intro fits
      exact absurd (fits.error?_eq.symm.trans refused.error?_eq) (by simp)
    rw [spliced, if_neg misfit, perform_of_error (apply_eq_error_iff.mpr refused)]

/-- The document behind a run of edits, refused ones among them. -/
def performEdits (document : Document) (edits : List Edit) : Document :=
  edits.foldl (fun document edit => document.perform (.edit edit)) document

/-- A run of edits makes of the text what the edits that fit make of it, and counts these. -/
theorem performEdits_eq_foldl (document : Document) (edits : List Edit) :
    ((document.performEdits edits).text, (document.performEdits edits).version) =
      edits.foldl spliced (document.text, document.version) := by
  induction edits generalizing document with
  | nil => rfl
  | cons edit edits ih =>
      have rest := ih (document.perform (.edit edit))
      rw [perform_eq_spliced] at rest
      exact rest

/--
An edit is refused for being outside of the text, or else for the first of its
bounds that is inside a character, and then the document stays as it is.  Every
other edit is applied, and its patch reports what has happened to the document.
So a run of edits of a new document leaves the text that the edits that fit make
of it one after the other, and their number as its version.
-/
theorem apply_refuses_or_reports {document : Document} (reached : Reachable document)
    (edit : Edit) :
    (forall error, document.apply edit = .error error ↔ edit.Refused document.text error) ∧
      (forall error, document.apply edit = .error error ->
        document.perform (.edit edit) = document) ∧
      (edit.Fits document.text ↔
        exists patch changed, document.apply edit = .ok (patch, changed) ∧
          document.perform (.edit edit) = changed ∧ patch.Reports edit document changed) ∧
      forall (text : Text) (language : Option Language) (edits : List Edit),
        ((create text language).performEdits edits).text = (edits.foldl spliced (text, 0)).1 ∧
          ((create text language).performEdits edits).version =
            (edits.foldl spliced (text, 0)).2 := by
  refine ⟨fun error => apply_eq_error_iff, fun error => perform_of_error, ⟨?_, ?_⟩, ?_⟩
  · intro fits
    exact ⟨_, _, document.apply_of_fits fits, document.perform_of_fits fits,
      applyEdit_reports reached.isFresh fits⟩
  · rintro ⟨patch, changed, applied, -, -⟩
    rcases Edit.fits_or_refused edit document.text with fits | ⟨error, refused⟩
    · exact fits
    · exact absurd ((apply_eq_error_iff.mpr refused).symm.trans applied) (by simp)
  · intro text language edits
    exact Prod.mk.inj (performEdits_eq_foldl (create text language) edits)

/-- One edit is outside of the text, one splits its accent, and the third is applied. -/
theorem apply_refuses_or_reports_of_accent :
    let document := create ['e', 'é', '\n'] (some .c)
    let edit : Edit := { span := ⟨1, 3⟩, text := ['\n', 'ü'] }
    let result := document.applyEdit edit
    Reachable document ∧
      document.apply (.insert 5 ['x']) = .error (.outOfBounds ⟨5, 5⟩ 4) ∧
      document.apply (.insert 2 ['x']) = .error (.notBoundary 2) ∧
      result.1.rescanned = ⟨0, 5⟩ ∧ result.1.lineDelta = 1 ∧
      result.1.Reports edit document result.2 ∧
      (document.performEdits [.insert 2 ['x'], edit, .insert 9 ['x']]).version = 1 := by
  intro document edit result
  have reached : Reachable document := .create _ _ (by decide)
  have outside : (Edit.insert 5 ['x']).Refused document.text (.outOfBounds ⟨5, 5⟩ 4) :=
    .outOfBounds (by decide)
  have splits : (Edit.insert 2 ['x']).Refused document.text (.notBoundary 2) :=
    .start (by decide) (by decide) ⟨['e'], 'é', ['\n'], rfl, by decide, by decide⟩
  have fits : edit.Fits document.text := by decide
  have reports : result.1.Reports edit document result.2 := by
    obtain ⟨patch, changed, applied, -, reports⟩ :=
      (apply_refuses_or_reports reached edit).2.2.1.mp fits
    have same : result = (patch, changed) :=
      Except.ok.inj ((document.apply_of_fits fits).symm.trans applied)
    rw [same]
    exact reports
  have version := ((apply_refuses_or_reports reached edit).2.2.2 ['e', 'é', '\n'] (some .c)
    [.insert 2 ['x'], edit, .insert 9 ['x']]).2
  exact ⟨reached, ((apply_refuses_or_reports reached _).1 _).mpr outside,
    ((apply_refuses_or_reports reached _).1 _).mpr splits, by decide +kernel, by decide +kernel,
    reports, version.trans (by decide)⟩

end Document
end Lexis
