import Lexis.Proofs.Grammar.Kinds
import Lexis.Proofs.Highlighter.LineStates
import Lexis.Proofs.Scanner.States

namespace Lexis

/-!
The states that a language has.

A grammar's features tell which strings and comments can be open in a text of
its language, and in Markdown only fenced code can be.  No scan reports any
other state, provided that it does not begin in one (`Grammar.endStates_scan`,
`Markdown.endStates_scan`).
-/

namespace Grammar

/--
The states that texts of the grammar's language can be in.  Strings need the
feature that their quote belongs to.  A string in double or single quotes can
span lines only if the grammar has such strings, and one in backticks spans
lines exactly then.
-/
def Allows (grammar : Grammar) : State -> Prop
  | .normal => True
  | .inString quote multiline =>
      grammar.features.isQuote quote = true ∧
        (quote ≠ '`' -> multiline = true -> grammar.features.multilineStrings = true) ∧
        (quote = '`' -> multiline = grammar.features.multilineStrings)
  | .inComment multiline markup =>
      multiline = true ∧ (markup = true -> grammar.features.markupComments = true)

instance (grammar : Grammar) (state : State) : Decidable (grammar.Allows state) :=
  match state with
  | .normal => inferInstanceAs (Decidable True)
  | .inString _ _ => inferInstanceAs (Decidable (_ ∧ (_ -> _ -> _) ∧ (_ -> _)))
  | .inComment _ _ => inferInstanceAs (Decidable (_ ∧ (_ -> _)))

variable {grammar : Grammar}

/-- A string that begins in a text of the grammar's language is one of those that it has. -/
theorem allows_string {quote : Char} {text : Text}
    (isQuote : grammar.features.isQuote quote = true) :
    grammar.Allows (.inString quote (grammar.features.opensTripled quote text ||
      quote == '`' && grammar.features.multilineStrings)) := by
  refine ⟨isQuote, ?_, ?_⟩
  · intro other multiline
    have tripled : grammar.features.opensTripled quote text = true := by
      simpa [other] using multiline
    simp only [Features.opensTripled, Bool.and_eq_true] at tripled
    exact tripled.1.1
  · rintro rfl
    simp [Features.opensTripled]

theorem reports_next (grammar : Grammar) (inTag : Bool) (head : Char) (tail : Text) :
    (grammar.next inTag head tail).Reports grammar.Allows := by
  have announces := grammar.announces_opening inTag head tail
  have normal : grammar.Allows .normal := trivial
  rw [next]
  generalize grammar.opening inTag head tail = kind at announces
  cases kind with
  | lineBreak => exact Step.reports_lineBreak normal false head tail
  | blockComment =>
      have inside : grammar.Allows .blockComment := ⟨rfl, fun markup => absurd markup (by decide)⟩
      exact Step.reports_ofBody normal _ inside _ _ _
  | markupComment =>
      have inside : grammar.Allows .markupComment := ⟨rfl, fun _ => announces.1⟩
      exact Step.reports_ofBody normal _ inside _ _ _
  | string quote tripled =>
      rcases announces with ⟨-, isQuote, rfl⟩
      exact Step.reports_ofBody normal _ (allows_string isQuote) _ _ _
  | _ =>
      refine Step.reports_of_closed normal (fun state member => ?_) rfl
      exact absurd member (by simp [stepOf, within, wordStep])

/-- A scan that begins in a state of its language reports no others. -/
theorem endStates_scan {state : State} (entry : grammar.Allows state) (text : Text) :
    forall reported, reported ∈ (grammar.scan state text).endStates ->
      grammar.Allows reported := by
  have normal : grammar.Allows .normal := trivial
  cases state with
  | normal => exact Scanner.endStates_run grammar.reports_next normal false text
  | inString quote multiline =>
      exact Scanner.endStates_resume grammar.reports_next normal .string entry false _
  | inComment multiline markup =>
      rcases entry with ⟨rfl, onlyMarkup⟩
      have inside : grammar.Allows (.inComment true markup) := ⟨rfl, onlyMarkup⟩
      exact Scanner.endStates_resume grammar.reports_next normal .comment inside false _

end Grammar

namespace Markdown

/-- Nothing but fenced code is left open by a line of Markdown. -/
def Allows (state : State) : Prop :=
  state = .normal ∨ state = .fence

instance (state : State) : Decidable (Allows state) :=
  inferInstanceAs (Decidable (_ ∨ _))

theorem reports_inline (head : Char) (tail : Text) : (inline head tail).Reports Allows := by
  have normal : Allows .normal := Or.inl rfl
  simp only [inline]
  split
  · exact Step.reports_ofBody normal _ (Or.inr rfl) _ _ _
  all_goals
    repeat' split
    all_goals exact Step.reports_of_closed normal (fun _ member => absurd member (by simp)) rfl

theorem reports_next (atStart : Bool) (head : Char) (tail : Text) :
    (next atStart head tail).Reports Allows := by
  have normal : Allows .normal := Or.inl rfl
  simp only [next]
  split
  · exact Step.reports_of_closed normal (fun _ member => absurd member (by simp)) rfl
  split
  · exact Step.reports_lineBreak normal true head tail
  split
  · exact Step.reports_of_closed normal (fun _ member => absurd member (by simp)) rfl
  · exact reports_inline head tail

/-- Whatever state the text begins in, it is taken for fenced code or for none. -/
theorem endStates_scan (state : State) (text : Text) :
    forall reported, reported ∈ (scan state text).endStates -> Allows reported := by
  have normal : Allows .normal := Or.inl rfl
  rw [scan]
  split
  · exact Scanner.endStates_resume reports_next normal .string (Or.inr rfl) false _
  · exact Scanner.endStates_run reports_next normal true text

end Markdown

namespace Method

/-- The states that texts can be in which are scanned by the method. -/
def Allows : Method -> State -> Prop
  | plain => fun state => state = .normal
  | byGrammar grammar => grammar.Allows
  | markdown => Markdown.Allows

theorem endStates_scan_normal (method : Method) (text : Text) :
    forall reported, reported ∈ (method.scan .normal text).endStates ->
      method.Allows reported := by
  cases method with
  | plain =>
      intro reported member
      rw [scan, Scan.endStates, lineStates_scanPlain] at member
      rcases List.mem_append.mp member with inLines | last
      · exact List.eq_of_mem_replicate inLines
      · exact List.mem_singleton.mp last
  | byGrammar grammar =>
      have entry : grammar.Allows .normal := trivial
      exact Grammar.endStates_scan entry text
  | markdown => exact Markdown.endStates_scan .normal text

end Method
end Lexis
