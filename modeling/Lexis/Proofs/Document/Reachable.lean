import Lexis.Proofs.Document.Splice

namespace Lexis
namespace Document

/-!
Documents under operation.

However a document was edited, it holds the tokens and states that a scan of its
present text finds (`tokens_and_states_of_reachable`).  The invariant is
`IsFresh`; a step keeps it either by scanning everything anew or by a rescan
that meets the old text again (`applyEdit_cases`).
-/

/-! ## Operations -/

/-- What can be done to a document. -/
inductive Operation where
  | edit (edit : Edit)
  | setLanguage (language : Option Language)

/-- The document behind an operation; an edit that is refused leaves it as it was. -/
def perform (document : Document) : Operation -> Document
  | .edit edit =>
      match document.apply edit with
      | .ok (_, changed) => changed
      | .error _ => document
  | .setLanguage language => (document.setLanguage language).2

/-- The documents that operations make of new ones, as far as texts can be held in memory. -/
inductive Reachable : Document -> Prop
  | create (text : Text) (language : Option Language) (storable : text.IsStorable) :
      Reachable (create text language)
  | perform {document : Document} (operation : Operation) (reached : Reachable document)
      (storable : (document.perform operation).text.IsStorable) :
      Reachable (document.perform operation)

/-! ## The invariant -/

/-- The document holds the tokens and states of its text in its language. -/
structure IsFresh (document : Document) : Prop extends document.IsScanned where
  storable : document.text.IsStorable
  ofLanguage : document.highlighter = Highlighter.ofLanguage document.language

theorem isFresh_scanned {highlighter : Highlighter} {text : Text} (version : Nat)
    (storable : text.IsStorable)
    (ofLanguage : highlighter = Highlighter.ofLanguage highlighter.language) :
    (scanned highlighter text version).IsFresh where
  tokens := rfl
  cached := rfl
  storable := storable
  ofLanguage := ofLanguage

theorem isFresh_splice {document : Document} {text : Text} {result : Rescan} {delta : Int}
    {first count : Nat} (isFresh : document.IsFresh)
    (readsLines : document.highlighter.method.ReadsLines) (storable : text.IsStorable)
    (rejoins : result.Rejoins document.highlighter.method document.text text delta)
    (scansLines : result.ScansLines document.highlighter.method text
      (document.highlighter.method.after .normal (text.lines.take first)) first count) :
    (document.splice text result delta).IsFresh where
  tokens := spliceTokens_eq isFresh.toIsScanned readsLines storable rejoins scansLines
  cached := splice_cached isFresh.toIsScanned readsLines rejoins scansLines
  storable := storable
  ofLanguage := isFresh.ofLanguage

/-- The document that an accepted edit leaves if everything is scanned anew. -/
def rescanned (document : Document) (edit : Edit) : Document :=
  scanned document.highlighter (edit.applyTo document.text) (document.version + 1)

/-- What an accepted edit is reported as if only some lines are scanned. -/
def splicedPatch (document : Document) (edit : Edit) (result : Rescan) : Patch :=
  { edited := edit.inserted
    rescannedLines := result.lines
    rescanned := result.span
    lineDelta := result.lineDelta
    fullRescan := false
    version := document.version + 1 }

theorem applyEdit_of_rescan {document : Document} {edit : Edit} {result : Rescan}
    (plain : document.highlighter.method.isPlain = false)
    (found : document.highlighter.rescan (edit.applyTo document.text) document.cached
      edit.inserted = some result) :
    document.applyEdit edit =
      (document.splicedPatch edit result,
        document.splice (edit.applyTo document.text) result edit.delta) := by
  simp [applyEdit, plain, found, splicedPatch]

/-- An edit is applied by a scan of everything, or by a rescan if that has an answer. -/
theorem applyEdit_eq (document : Document) (edit : Edit) :
    document.applyEdit edit =
        ((document.rescanned edit).fullPatch edit.inserted document.cached.count,
          document.rescanned edit) ∨
      exists result, document.highlighter.method.isPlain = false ∧
        document.highlighter.rescan (edit.applyTo document.text) document.cached edit.inserted =
          some result ∧
        document.applyEdit edit =
          (document.splicedPatch edit result,
            document.splice (edit.applyTo document.text) result edit.delta) := by
  cases plain : document.highlighter.method.isPlain with
  | true => exact Or.inl (by simp [applyEdit, plain, rescanned])
  | false =>
      cases found : document.highlighter.rescan (edit.applyTo document.text) document.cached
          edit.inserted with
      | none => exact Or.inl (by simp [applyEdit, plain, found, rescanned])
      | some result => exact Or.inr ⟨result, rfl, rfl, applyEdit_of_rescan plain found⟩

theorem applyEdit_text (document : Document) (edit : Edit) :
    (document.applyEdit edit).2.text = edit.applyTo document.text := by
  rcases applyEdit_eq document edit with anew | ⟨result, -, -, spliced⟩
  · rw [anew]
    rfl
  · rw [spliced]
    rfl

/--
An accepted edit of a fresh document scans everything anew, or it rescans some
lines behind which the old text goes on in the same state.
-/
theorem applyEdit_cases {document : Document} {edit : Edit} (isFresh : document.IsFresh)
    (accepted : edit.error? document.text = none) :
    document.applyEdit edit =
        ((document.rescanned edit).fullPatch edit.inserted document.cached.count,
          document.rescanned edit) ∨
      exists result first count, document.highlighter.method.ReadsLines ∧
        result.ScansLines document.highlighter.method (edit.applyTo document.text)
          (document.highlighter.method.after .normal
            ((edit.applyTo document.text).lines.take first)) first count ∧
        result.Rejoins document.highlighter.method document.text (edit.applyTo document.text)
          edit.delta ∧
        document.applyEdit edit =
          (document.splicedPatch edit result,
            document.splice (edit.applyTo document.text) result edit.delta) := by
  rcases applyEdit_eq document edit with anew | ⟨result, plain, found, spliced⟩
  · exact Or.inl anew
  · have readsLines : document.highlighter.method.ReadsLines := by
      rw [isFresh.ofLanguage] at plain ⊢
      exact Highlighter.readsLines_ofLanguage _ plain
    rcases Edit.divides_of_accepted accepted with ⟨front, removed, back, divides⟩
    rw [isFresh.cached] at found
    obtain ⟨first, count, scansLines, rejoins⟩ :=
      Highlighter.rescan_rejoins readsLines divides isFresh.storable found
    exact Or.inr ⟨result, first, count, readsLines, scansLines, rejoins, spliced⟩

theorem isFresh_applyEdit {document : Document} {edit : Edit} (isFresh : document.IsFresh)
    (accepted : edit.error? document.text = none)
    (storable : (document.applyEdit edit).2.text.IsStorable) :
    (document.applyEdit edit).2.IsFresh := by
  rcases applyEdit_cases isFresh accepted with
    anew | ⟨result, first, count, readsLines, scansLines, rejoins, spliced⟩
  · rw [anew] at storable ⊢
    exact isFresh_scanned _ storable isFresh.ofLanguage
  · rw [spliced] at storable ⊢
    exact isFresh_splice isFresh readsLines storable rejoins scansLines

theorem isFresh_perform {document : Document} (isFresh : document.IsFresh) (operation : Operation)
    (storable : (document.perform operation).text.IsStorable) :
    (document.perform operation).IsFresh := by
  cases operation with
  | setLanguage language => exact isFresh_scanned _ storable rfl
  | edit edit =>
      simp only [perform, apply] at storable ⊢
      cases accepted : edit.error? document.text with
      | some error => exact isFresh
      | none =>
          rw [accepted] at storable
          exact isFresh_applyEdit isFresh accepted storable

theorem Reachable.isFresh {document : Document} (reached : Reachable document) :
    document.IsFresh := by
  induction reached with
  | create text language storable => exact isFresh_scanned 0 storable rfl
  | perform operation reached storable ih => exact isFresh_perform ih operation storable

/-- A fresh document holds the tokens of its text in its language, whoever scanned it. -/
theorem IsFresh.tokens_eq {document : Document} (isFresh : document.IsFresh) :
    document.tokens = tokenize document.text (some document.language) :=
  isFresh.tokens.trans
    (congrArg (fun highlighter => (highlighter.scan .normal document.text).tokens 0)
      isFresh.ofLanguage)

theorem IsFresh.cached_eq {document : Document} (isFresh : document.IsFresh) :
    document.cached = LineStates.ofScan
      ((Highlighter.ofLanguage document.language).scan .normal document.text) :=
  isFresh.cached.trans
    (congrArg (fun highlighter => LineStates.ofScan (highlighter.scan .normal document.text))
      isFresh.ofLanguage)

/-- Every scan of a text in a language reports one state for each of its lines. -/
theorem count_ofLanguage (language : Language) (text : Text) :
    (LineStates.ofScan ((Highlighter.ofLanguage language).scan .normal text)).count =
      text.lineFeeds + 1 := by
  cases plain : (Highlighter.ofLanguage language).method.isPlain with
  | false =>
      rw [← Text.length_lines]
      exact LineStates.count_ofScan (Highlighter.readsLines_ofLanguage language plain) text
  | true =>
      rw [Highlighter.scan]
      cases method : (Highlighter.ofLanguage language).method with
      | plain => exact Method.count_scanPlain text
      | byGrammar grammar => exact absurd plain (by simp [method, Method.isPlain])
      | markdown => exact absurd plain (by simp [method, Method.isPlain])

theorem IsFresh.count_cached {document : Document} (isFresh : document.IsFresh) :
    document.cached.count = document.lineCount := by
  rw [isFresh.cached_eq, count_ofLanguage, lineCount]

/--
However a document was edited and whatever its language was in between, it holds
the tokens and line states that a scan of its text finds.  So they do not depend
on how the text came about.
-/
theorem tokens_and_states_of_reachable {document : Document} (reached : Reachable document) :
    document.tokens = tokenize document.text (some document.language) ∧
      document.cached = LineStates.ofScan
        ((Highlighter.ofLanguage document.language).scan .normal document.text) ∧
      document.cached.count = document.lineCount ∧
      forall other, Reachable other -> other.text = document.text ->
        other.language = document.language ->
          other.tokens = document.tokens ∧ other.cached = document.cached := by
  have isFresh := reached.isFresh
  refine ⟨isFresh.tokens_eq, isFresh.cached_eq, ?_, fun other otherReached sameText same => ?_⟩
  · rw [isFresh.cached_eq, count_ofLanguage, lineCount]
  · have otherFresh := otherReached.isFresh
    rw [otherFresh.tokens_eq, otherFresh.cached_eq, isFresh.tokens_eq, isFresh.cached_eq, sameText,
      same]
    exact ⟨rfl, rfl⟩

/-- A comment that an edit opens takes in the lines behind it; a refused edit changes nothing. -/
theorem tokens_and_states_of_opened_comment :
    let opened := (create ['x', '\n', 'y'] (some .c)).perform (.edit (.insert 0 ['/', '*']))
    let document := opened.perform (.edit (.delete { start := 9, stop := 9 }))
    Reachable document ∧ document.tokens = tokenize document.text (some document.language) ∧
      document.tokens = [⟨.comment, 0, 5⟩] ∧ document.cached.count = document.lineCount := by
  intro opened document
  have reached : Reachable document :=
    .perform _ (.perform _ (.create _ _ (by decide)) (by decide +kernel)) (by decide +kernel)
  rcases tokens_and_states_of_reachable reached with ⟨tokens, -, count, -⟩
  exact ⟨reached, tokens, by decide +kernel, count⟩

end Document
end Lexis
