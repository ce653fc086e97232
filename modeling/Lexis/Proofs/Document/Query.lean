import Lexis.Document.Query
import Lexis.Proofs.Document.Reachable
import Lexis.Proofs.Token.Restrict
import Lexis.Proofs.Token.Seams

namespace Lexis

/-!
What a view is shown of a document.

The tokens of a document begin and end in their order, so each of the two
searches for a span finds a seam between them; those between the two seams
overlap the span (`Token.Tiles.between_seams`).  Shown line by line, they spell
the text (`Document.queries_find_overlaps`).
-/

/-- A line of a text lies between two boundaries, which cut it out. -/
theorem Text.slice_line {text content : Text} {line : Nat}
    (present : text.lines[line]? = some content) :
    text.IsBoundary (text.lineStart line) ∧ text.IsBoundary (text.lineStart (line + 1)) ∧
      text.lineStart (line + 1) = text.lineStart line + content.size ∧
      text.slice (text.lineStart line) (text.lineStart (line + 1)) = content := by
  rcases List.getElem?_eq_some_iff.mp present with ⟨inside, rfl⟩
  have cut := text.slice_lines line 1
  rw [flatten_line inside] at cut
  exact ⟨text.isBoundary_lineStart line, text.isBoundary_lineStart (line + 1),
    lineStart_succ inside, cut⟩

namespace Document

variable {document : Document}

theorem IsScanned.tokensIn_eq (isScanned : document.IsScanned) (span : Span) :
    document.tokensIn span = document.tokens.filter (·.overlaps span) :=
  isScanned.tiles.between_seams span

theorem IsScanned.partitions (isScanned : document.IsScanned) :
    Token.Partitions 0 document.text document.tokens := by
  rw [isScanned.tokens]
  exact (document.highlighter.method.covers_scan .normal document.text).partitions 0

/-! ## Line by line -/

/-- There is no line, or nothing stands on it. -/
theorem lineTokens_of_nothing {line : Nat}
    (nothing : document.lineCount ≤ line ∨ document.text.lines[line]? = some []) :
    document.lineTokens line = [] := by
  rcases nothing with beyond | blank
  · rw [lineTokens, if_pos beyond]
  · have sameEnds : (document.lineSpan line).isEmpty = true := by
      simp [lineSpan, Span.isEmpty, (Text.slice_line blank).2.2.1]
    simp only [lineTokens, sameEnds, if_true, ite_self]

/-- The bytes of a line that something stands on. -/
theorem lineSpan_eq {line : Nat} {content : Text}
    (present : document.text.lines[line]? = some content) :
    document.lineSpan line =
      { start := document.text.lineStart line
        stop := document.text.lineStart line + content.size } := by
  rw [lineSpan, (Text.slice_line present).2.2.1]

theorem IsScanned.lineTokens_eq (isScanned : document.IsScanned) {line : Nat} {content : Text}
    (present : document.text.lines[line]? = some content) (nonempty : content ≠ []) :
    document.lineTokens line = document.tokens.filter (·.overlaps (document.lineSpan line)) := by
  have isLine : ¬ document.lineCount ≤ line := by
    rw [lineCount, ← Text.length_lines]
    exact Nat.not_le_of_lt (List.getElem?_eq_some_iff.mp present).1
  have apart : ¬ (document.lineSpan line).isEmpty = true := by
    have positive := Text.size_pos nonempty
    simp only [lineSpan_eq present, Span.isEmpty, decide_eq_true_eq]
    omega
  rw [lineTokens, if_neg isLine]
  simp only [if_neg apart, isScanned.tokensIn_eq]

/-- What a view shows of a line: the tokens that it is given for the line, cut down to it. -/
def shownLine (document : Document) (line : Nat) : Text :=
  (document.lineTokens line).flatMap fun token =>
    (token.clip (document.lineSpan line)).text document.text

theorem IsScanned.shownLine_eq (isScanned : document.IsScanned) {line : Nat} {content : Text}
    (present : document.text.lines[line]? = some content) :
    document.shownLine line = content := by
  rcases Text.slice_line present with ⟨starts, stops, next, cut⟩
  by_cases blank : content = []
  · subst blank
    rw [shownLine, lineTokens_of_nothing (Or.inr present)]
    rfl
  · have ordered : document.text.lineStart line < document.text.lineStart (line + 1) := by
      have positive := Text.size_pos blank
      omega
    have shown := Token.flatMap_text_restrict isScanned.partitions starts stops ordered
    rw [Token.restrict, List.flatMap_map, cut] at shown
    rw [shownLine, isScanned.lineTokens_eq present blank]
    exact shown

/-- The lines that a view shows are those of the text. -/
theorem IsScanned.map_shownLine (isScanned : document.IsScanned) :
    (List.range document.lineCount).map document.shownLine = document.text.lines := by
  rw [lineCount, ← Text.length_lines]
  refine List.ext_getElem (by simp) fun line inRange inside => ?_
  rw [List.getElem_map, List.getElem_range]
  exact isScanned.shownLine_eq (List.getElem?_eq_getElem inside)

/--
For every span, empty, inverted or beyond the text included, a document gives
the tokens that overlap it, in their order.  For a line it gives those that
overlap the bytes of the line, its line feed included, and none if there is no
such line or nothing stands on it.  Cut down to their lines, the tokens of all
lines spell the text.
-/
theorem queries_find_overlaps (reached : Reachable document) :
    (forall span, document.tokensIn span =
        document.tokens.filter fun token =>
          decide (token.start < span.stop) && decide (span.start < token.stop)) ∧
      (forall line, document.lineCount ≤ line ∨ document.text.lines[line]? = some [] ->
        document.lineTokens line = []) ∧
      (forall line (content : Text), document.text.lines[line]? = some content -> content ≠ [] ->
        document.lineTokens line = document.tokens.filter (·.overlaps
          { start := document.text.lineStart line
            stop := document.text.lineStart line + content.size })) ∧
      (List.range document.lineCount).flatMap document.shownLine = document.text := by
  have isScanned := reached.isFresh.toIsScanned
  refine ⟨isScanned.tokensIn_eq, fun line => lineTokens_of_nothing, ?_, ?_⟩
  · intro line content present nonempty
    rw [isScanned.lineTokens_eq present nonempty, lineSpan_eq present]
  · rw [List.flatMap_def, isScanned.map_shownLine, Text.flatten_lines]

/-- A comment that an edit opened is shown on both of its lines. -/
theorem queries_find_overlaps_of_opened_comment :
    let document := (create ['x', '\n', 'y'] (some .c)).perform (.edit (.insert 0 ['/', '*']))
    Reachable document ∧ document.tokens = [⟨.comment, 0, 5⟩] ∧
      document.lineTokens 1 = document.tokens ∧
      (List.range document.lineCount).flatMap document.shownLine = document.text := by
  intro document
  have reached : Reachable document :=
    .perform _ (.create _ _ (by decide)) (by decide +kernel)
  rcases queries_find_overlaps reached with ⟨-, -, byLine, shown⟩
  have tokens : document.tokens = [⟨.comment, 0, 5⟩] := by decide +kernel
  have second := byLine 1 ['y'] (by decide +kernel) (by decide)
  exact ⟨reached, tokens, by rw [second, tokens]; decide +kernel, shown⟩

end Document
end Lexis
