import Lexis.Proofs.Document.Reachable
import Lexis.Proofs.Token.CategoryAt

namespace Lexis

/-!
What a patch leaves out.

A patch reports the lines that were scanned anew.  In front of them tokens and
states are as before the edit, and behind them they are the old ones, moved.  So
a view that repaints the reported bytes and moves all others shows what it would
show if it painted everything anew (`apply_keepsRest`).
-/

/-- Outside of the rescanned bytes and lines, the changed document is the old one, moved. -/
structure Patch.KeepsRest (patch : Patch) (delta : Int) (document changed : Document) : Prop where
  front : Token.restrict changed.tokens { start := 0, stop := patch.rescanned.start } =
    Token.restrict document.tokens { start := 0, stop := patch.rescanned.start }
  back : exists oldStop : Nat, (oldStop : Int) = patch.rescanned.stop - delta ∧
    Token.restrict changed.tokens { start := patch.rescanned.stop, stop := changed.size } =
      (Token.restrict document.tokens { start := oldStop, stop := document.size }).map
        (·.shift delta)
  statesBefore : forall line, line < patch.rescannedLines.start ->
    changed.cached.endState? line = document.cached.endState? line
  statesBehind : forall line, patch.rescannedLines.stop ≤ line ->
    exists oldLine : Nat, (oldLine : Int) = line - patch.lineDelta ∧
      changed.cached.endState? line = document.cached.endState? oldLine

/--
What a view shows at an offset if it paints the rescanned bytes and keeps what
it showed before everywhere else, moved behind them.
-/
def Patch.repaint (patch : Patch) (delta : Int) (document changed : Document) (offset : Nat) :
    Option Category :=
  if offset < patch.rescanned.start then Token.categoryAt document.tokens offset
  else if offset < patch.rescanned.stop then Token.categoryAt changed.tokens offset
  else Token.categoryAt document.tokens (moveOffset offset (-delta))

namespace Document

variable {document changed : Document} {edit : Edit} {patch : Patch}

/-- A patch over the whole document leaves nothing out. -/
theorem keepsRest_fullPatch (isFresh : document.IsFresh)
    (accepted : edit.error? document.text = none) :
    ((document.rescanned edit).fullPatch edit.inserted document.cached.count).KeepsRest edit.delta
      document (document.rescanned edit) := by
  rcases Edit.divides_of_accepted accepted with ⟨front, removed, back, divides⟩
  have oldTiles := isFresh.toIsScanned.tiles
  have newScanned : (document.rescanned edit).IsScanned := ⟨rfl, rfl⟩
  have newTiles := newScanned.tiles
  constructor
  · exact (newTiles.restrict_behind 0).trans (oldTiles.restrict_behind 0).symm
  · refine ⟨document.size, ?_, ?_⟩
    · have newStop : ((document.rescanned edit).fullPatch edit.inserted
          document.cached.count).rescanned.stop = (edit.applyTo document.text).size := rfl
      rw [divides.delta_eq, newStop, Int.sub_sub_self]
      rfl
    · exact (newTiles.restrict_ahead _).trans
        (congrArg (List.map _) (oldTiles.restrict_ahead _)).symm
  · intro line before
    exact absurd before (Nat.not_lt_zero line)
  · intro line behind
    refine ⟨line - (document.rescanned edit).cached.count + document.cached.count, ?_, ?_⟩
    · simp only [fullPatch] at behind ⊢
      omega
    · have oldBehind : document.cached.states.length ≤
          line - (document.rescanned edit).cached.count + document.cached.count :=
        Nat.le_add_left _ _
      rw [LineStates.endState?, LineStates.endState?, List.getElem?_eq_none behind,
        List.getElem?_eq_none oldBehind]

theorem keepsRest_splice {result : Rescan} {text : Text} {delta : Int} {first count : Nat}
    (isFresh : document.IsFresh) (readsLines : document.highlighter.method.ReadsLines)
    (storable : text.IsStorable)
    (rejoins : result.Rejoins document.highlighter.method document.text text delta)
    (scansLines : result.ScansLines document.highlighter.method text
      (document.highlighter.method.after .normal (text.lines.take first)) first count)
    (lines : patch.rescannedLines = result.lines) (span : patch.rescanned = result.span)
    (lineDelta : patch.lineDelta = result.lineDelta) :
    patch.KeepsRest delta document (document.splice text result delta) := by
  have spliced := isFresh_splice isFresh readsLines storable rejoins scansLines
  have oldFront := rejoins.restrict_front readsLines scansLines
  have oldBack := rejoins.restrict_back readsLines storable scansLines
  have newFront := readsLines.restrict_front text first scansLines.inside
  have newBack := readsLines.restrict_back text (first + count)
  rw [← scansLines.span_stop] at newBack
  rw [← scansLines.span_start] at newFront
  have newTokens : (document.splice text result delta).tokens =
      (document.highlighter.method.scan .normal text).tokens 0 := spliced.tokens
  have newStates : (document.splice text result delta).cached =
      LineStates.ofScan (document.highlighter.method.scan .normal text) := spliced.cached
  have oldTokens : document.tokens =
      (document.highlighter.method.scan .normal document.text).tokens 0 := isFresh.tokens
  have oldStates : document.cached =
      LineStates.ofScan (document.highlighter.method.scan .normal document.text) := isFresh.cached
  constructor
  · rw [span, newTokens, oldTokens, oldFront, newFront]
  · refine ⟨result.oldStop delta, ?_, ?_⟩
    · rw [span, rejoins.oldStop, rejoins.bytes_moved]
    · rw [span, newTokens, oldTokens]
      exact newBack.trans oldBack.symm
  · intro line before
    have same := congrArg (·[line]?) (rejoins.take_states readsLines)
    rw [lines] at before
    rw [newStates, oldStates, LineStates.endState?, LineStates.endState?]
    simpa only [List.getElem?_take_of_lt before] using same.symm
  · intro line behind
    rcases Nat.exists_eq_add_of_le behind with ⟨number, rfl⟩
    have same := congrArg (·[number]?) (rejoins.drop_states readsLines)
    refine ⟨result.oldLines.stop + number, ?_, ?_⟩
    · have := rejoins.lines_moved
      rw [lines, lineDelta]
      omega
    · rw [newStates, oldStates, LineStates.endState?, LineStates.endState?, lines]
      simpa only [List.getElem?_drop] using same.symm

/-- What is repainted and what is kept are together the tokens of the changed document. -/
theorem repaint_eq {delta : Int} (keepsRest : patch.KeepsRest delta document changed)
    (sizes : (document.size : Int) + delta = changed.size) (oldStorable : document.size ≤ maxOffset)
    (storable : changed.size ≤ maxOffset) {offset : Nat} (inside : offset < changed.size) :
    patch.repaint delta document changed offset = Token.categoryAt changed.tokens offset := by
  rw [Patch.repaint]
  split
  · next before =>
      rw [← Token.categoryAt_restrict document.tokens (Nat.zero_le offset) before,
        ← keepsRest.front, Token.categoryAt_restrict changed.tokens (Nat.zero_le offset) before]
  split
  · rfl
  · next beyond =>
      rcases keepsRest.back with ⟨oldStop, oldStop_eq, back⟩
      have behind : patch.rescanned.stop ≤ offset := Nat.le_of_not_lt beyond
      obtain ⟨source, moved⟩ : exists source : Nat, (source : Int) + delta = offset :=
        ⟨oldStop + (offset - patch.rescanned.stop), by omega⟩
      have lower : oldStop ≤ source := by omega
      have upper : source < document.size := by omega
      have target : moveOffset offset (-delta) = source := moveOffset_eq (by omega) (by omega)
      have bounds : forall token,
          token ∈ Token.restrict document.tokens { start := oldStop, stop := document.size } ->
            0 ≤ token.start + delta ∧ token.start + delta ≤ maxOffset ∧
              0 ≤ token.stop + delta ∧ token.stop + delta ≤ maxOffset := by
        intro token member
        have within := Token.bounds_of_mem_restrict
          (show oldStop ≤ document.size by omega) member
        simp only at within
        omega
      rw [target, ← Token.categoryAt_restrict changed.tokens behind inside, back,
        Token.categoryAt_map_shift moved bounds,
        Token.categoryAt_restrict document.tokens lower upper]

/--
The patch of an accepted edit reports every line whose tokens or states have
changed.  All others are the old ones, moved by as much as the edit lengthened
the text, so it is enough to repaint what the patch reports.
-/
theorem apply_keepsRest (reached : Reachable document) (storable : changed.text.IsStorable)
    (applied : document.apply edit = .ok (patch, changed)) :
    patch.KeepsRest edit.delta document changed ∧
      forall offset, offset < changed.size ->
        patch.repaint edit.delta document changed offset =
          Token.categoryAt changed.tokens offset := by
  have isFresh := reached.isFresh
  obtain ⟨accepted, same⟩ : edit.error? document.text = none ∧
      document.applyEdit edit = (patch, changed) := by
    rw [apply] at applied
    cases accepted : edit.error? document.text with
    | some error =>
        rw [accepted] at applied
        exact absurd applied (by simp)
    | none =>
        rw [accepted] at applied
        exact ⟨rfl, Except.ok.inj applied⟩
  have keepsRest : patch.KeepsRest edit.delta document changed := by
    rcases applyEdit_cases isFresh accepted with
      anew | ⟨result, first, count, readsLines, scansLines, rejoins, spliced⟩
    · rcases Prod.mk.inj (same.symm.trans anew) with ⟨rfl, rfl⟩
      exact keepsRest_fullPatch isFresh accepted
    · rcases Prod.mk.inj (same.symm.trans spliced) with ⟨rfl, rfl⟩
      exact keepsRest_splice isFresh readsLines storable rejoins scansLines rfl rfl rfl
  rcases Edit.divides_of_accepted accepted with ⟨front, removed, back, divides⟩
  have sizes : (document.size : Int) + edit.delta = changed.size := by
    have newText := applyEdit_text document edit
    rw [same] at newText
    rw [divides.delta_eq, size, size, newText]
    omega
  exact ⟨keepsRest, fun offset inside =>
    repaint_eq keepsRest sizes (Nat.le_of_lt isFresh.storable) (Nat.le_of_lt storable) inside⟩

/-- Behind a comment that is closed again on its line, nothing is scanned. -/
theorem apply_keepsRest_of_closed_comment :
    let document := create ['a', '\n', 'b', '\n', 'c'] (some .c)
    let edit := Edit.insert 2 ['/', '*', '*', '/']
    let result := document.applyEdit edit
    Reachable document ∧ result.2.text.IsStorable ∧ document.apply edit = .ok result ∧
      result.1.rescanned = { start := 2, stop := 8 } ∧
      result.1.KeepsRest edit.delta document result.2 := by
  intro document edit result
  have reached : Reachable document := .create _ _ (by decide)
  have storable : result.2.text.IsStorable := by decide +kernel
  have applied : document.apply edit = .ok result := by
    rw [apply, show edit.error? document.text = none by decide]
  exact ⟨reached, storable, applied, by decide +kernel,
    (apply_keepsRest reached storable applied).1⟩

end Document
end Lexis
