import Lexis.Highlighter
import Lexis.Proofs.Token.Partition

namespace Lexis

/-!
Scans cover their texts.

Every method of scanning cuts the whole text into nonempty lexemes, in whatever
state it begins.  Hence it comes to an end, and its tokens partition the text
(`Method.scan_partitions`).
-/

/-- The lexemes put together are the text, and none of them is empty. -/
structure Scan.Covers (scan : Scan) (text : Text) : Prop where
  text_eq : scan.text = text
  nonempty : forall lexeme, lexeme ∈ scan.lexemes -> lexeme.text ≠ []

namespace Scan

theorem Covers.cons {scan : Scan} {text : Text} {lexeme : Lexeme} (covers : scan.Covers text)
    (present : lexeme.text ≠ []) : (scan.cons lexeme).Covers (lexeme.text ++ text) where
  text_eq := by simp [← covers.text_eq, Scan.text, Scan.cons, Lexeme.spell]
  nonempty other member := by
    rcases List.mem_cons.mp member with rfl | member
    · exact present
    · exact covers.nonempty other member

theorem Covers.partitions {scan : Scan} {text : Text} (covers : scan.Covers text) (base : Nat) :
    Token.Partitions base text (scan.tokens base) := by
  have partitions := Token.partitions_place covers.nonempty base
  rw [← covers.text_eq]
  exact partitions

theorem Covers.tiles {scan : Scan} {text : Text} (covers : scan.Covers text) (base : Nat) :
    Token.Tiles base (base + text.size) (scan.tokens base) :=
  (covers.partitions base).tiles

/-- Each lexeme takes at least one character. -/
theorem Covers.length_le {scan : Scan} {text : Text} (covers : scan.Covers text) :
    scan.lexemes.length ≤ text.length := by
  rcases scan with ⟨lexemes, endState⟩
  rw [← covers.text_eq]
  have nonempty := covers.nonempty
  clear covers
  induction lexemes with
  | nil => exact Nat.zero_le _
  | cons lexeme lexemes ih =>
      have rest := ih fun other member => nonempty other (List.mem_cons_of_mem _ member)
      have positive := List.length_pos_iff.mpr (nonempty lexeme List.mem_cons_self)
      simp only [Scan.text, Lexeme.spell] at rest ⊢
      rw [List.map_cons, List.flatten_cons, List.length_append, List.length_cons]
      omega

end Scan

namespace Scanner

variable {Mode : Type}

/-- A lexeme and the text behind it are the text that the step was made from. -/
theorem lexeme_append_rest (scanner : Scanner Mode) (mode : Mode) (head : Char) (tail : Text) :
    ((scanner.next mode head tail).lexeme head).text ++ (scanner.next mode head tail).cut.rest =
      head :: tail :=
  congrArg (head :: ·) (scanner.whole_cut mode head tail)

theorem covers_run (scanner : Scanner Mode) (state : State) (mode : Mode) (text : Text) :
    (scanner.run state mode text).Covers text := by
  fun_induction run scanner state mode text with
  | case1 => exact ⟨rfl, fun _ member => absurd member (by simp)⟩
  | case2 state mode head tail step ih =>
      rw [← scanner.lexeme_append_rest mode head tail]
      exact ih.cons (by simp [Step.lexeme])

/-- The rest of a body is a lexeme of its own only if it is not empty. -/
theorem covers_resume (scanner : Scanner Mode) (category : Category) (construct : State)
    (mode : Mode) {body : Body} {text : Text} (whole : body.cut.whole = text) :
    (scanner.resume category construct mode body).Covers text := by
  have covers := scanner.covers_run (body.state construct) mode body.cut.rest
  rw [resume, ← whole, Cut.whole]
  split
  · next empty => rwa [List.isEmpty_iff.mp empty]
  · next present => exact covers.cons (by simpa [Body.lexeme] using present)

end Scanner

theorem Grammar.covers_scan (grammar : Grammar) (state : State) (text : Text) :
    (grammar.scan state text).Covers text := by
  cases state with
  | normal => exact grammar.scanner.covers_run .normal false text
  | inString quote multiline =>
      exact grammar.scanner.covers_resume _ _ _ (Body.whole_ofString quote multiline text)
  | inComment multiline markup =>
      exact grammar.scanner.covers_resume _ _ _ (Body.whole_ofComment _ text)

theorem Markdown.covers_scan (state : State) (text : Text) :
    (Markdown.scan state text).Covers text := by
  rw [Markdown.scan]
  split
  · apply Markdown.scanner.covers_resume
    split
    · next opens => exact Body.append_drop_of_opensWith opens
    · exact Markdown.whole_fenceBody text
  · exact Markdown.scanner.covers_run .normal true text

theorem Method.covers_scan (method : Method) (state : State) (text : Text) :
    (method.scan state text).Covers text := by
  cases method with
  | plain =>
      by_cases empty : text = []
      · subst empty
        exact ⟨rfl, fun _ member => absurd member (by simp [Method.scan, Method.scanPlain])⟩
      · have single : (Method.scanPlain text).lexemes.map (·.text) = [text] := by
          simp [Method.scanPlain, empty]
        constructor
        · simp [Method.scan, Scan.text, Lexeme.spell, single]
        · intro lexeme member
          have inSingle := List.mem_map_of_mem (f := (·.text)) member
          rw [Method.scan, single, List.mem_singleton] at inSingle
          exact inSingle ▸ empty
  | byGrammar grammar => exact grammar.covers_scan state text
  | markdown => exact Markdown.covers_scan state text

theorem Lexeme.length_place (start : Nat) (lexemes : List Lexeme) :
    (Lexeme.place start lexemes).length = lexemes.length := by
  induction lexemes generalizing start with
  | nil => rfl
  | cons lexeme lexemes ih => rw [place, List.length_cons, List.length_cons, ih]

/--
Whatever the grammar holds and whatever state the text begins in, it is scanned
to its end in at most one step for each of its characters.  The tokens are not
empty and follow one another from the start of the text to its end, and none of
them begins or ends inside a character.
-/
theorem Method.scan_partitions (method : Method) (state : State) (text : Text) (base : Nat) :
    Token.Partitions base text ((method.scan state text).tokens base) ∧
      ((method.scan state text).tokens base).length ≤ text.length := by
  have covers := method.covers_scan state text
  constructor
  · exact covers.partitions base
  · rw [Scan.tokens, Lexeme.length_place]
    exact covers.length_le

end Lexis
