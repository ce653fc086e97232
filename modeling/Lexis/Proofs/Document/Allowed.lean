import Lexis.Proofs.Document.Reachable
import Lexis.Proofs.Highlighter.Allowed

namespace Lexis
namespace Document

/-!
The states that a document keeps.

The cached states of a document are those of a scan of its text, so each of them
is one that the document's language has, whatever languages it had before.
-/

theorem allows_of_mem_cached {document : Document} (reached : Reachable document) {state : State}
    (member : state ∈ document.cached.states) :
    (Highlighter.ofLanguage document.language).method.Allows state := by
  rw [reached.isFresh.cached_eq] at member
  exact Method.endStates_scan_normal _ document.text state member

/--
A scan that begins in a state which its grammar's language has reports only such
states, at its line ends and at its end.  Markdown reports fenced code or nothing
open, whatever the text begins in.  Hence, however a document was edited and
whatever its language was in between, every state that it keeps for a line is one
that its present language has.
-/
theorem allowed_states :
    (forall (grammar : Grammar) (state : State) (text : Text), grammar.Allows state ->
      (forall reported, reported ∈ (grammar.scan state text).lineStates ->
          grammar.Allows reported) ∧
        grammar.Allows (grammar.scan state text).endState) ∧
    (forall (state : State) (text : Text),
      (forall reported, reported ∈ (Markdown.scan state text).lineStates ->
          reported = .normal ∨ reported = .inString '`' true) ∧
        ((Markdown.scan state text).endState = .normal ∨
          (Markdown.scan state text).endState = .inString '`' true)) ∧
    forall document, Reachable document -> forall state, state ∈ document.cached.states ->
      (Highlighter.ofLanguage document.language).method.Allows state := by
  refine ⟨fun grammar state text entry => ?_, fun state text => ?_,
    fun document reached state => ?_⟩
  · have all := Grammar.endStates_scan entry text
    exact ⟨fun reported member => all reported (List.mem_append_left _ member),
      all _ (List.mem_append_right _ List.mem_cons_self)⟩
  · have all := Markdown.endStates_scan state text
    exact ⟨fun reported member => all reported (List.mem_append_left _ member),
      all _ (List.mem_append_right _ List.mem_cons_self)⟩
  · exact allows_of_mem_cached reached

/--
A tripled string that closes in the text it is carried into, and another one
that an edit opens in a document whose language was changed before.
-/
theorem allowed_states_of_tripled :
    let text : Text := ['x', '\n', '\'', '\'', '\'', '\n', '"', '\\', '\n']
    let document := ((create ['x', '\n', 'y'] (some .markdown)).perform
      (.setLanguage (some .python))).perform (.edit (.insert 0 ['"', '"', '"']))
    Grammar.python.Allows (.inString '\'' true) ∧
      (Grammar.python.scan (.inString '\'' true) text).endStates =
        [.inString '\'' true, .normal, .inString '"' false, .inString '"' false] ∧
      Grammar.python.Allows (.inString '"' false) ∧ Reachable document ∧
      document.cached.states = [.inString '"' true, .inString '"' true] ∧
      Method.Allows (.byGrammar Grammar.python) (.inString '"' true) := by
  intro text document
  rcases allowed_states with ⟨byGrammar, -, ofReachable⟩
  have entry : Grammar.python.Allows (.inString '\'' true) := by decide
  have states : (Grammar.python.scan (.inString '\'' true) text).endStates =
      [.inString '\'' true, .normal, .inString '"' false, .inString '"' false] := by
    decide +kernel
  have reached : Reachable document :=
    .perform _ (.perform _ (.create _ _ (by decide)) (by decide +kernel)) (by decide +kernel)
  have kept : document.cached.states = [.inString '"' true, .inString '"' true] := by
    decide +kernel
  have last : (Grammar.python.scan (.inString '\'' true) text).endState = .inString '"' false := by
    decide +kernel
  have allowed := (byGrammar _ _ text entry).2
  rw [last] at allowed
  have language : document.language = .python := by decide +kernel
  have inDocument := ofReachable document reached (.inString '"' true) (by simp [kept])
  rw [language] at inDocument
  exact ⟨entry, states, allowed, reached, kept, inDocument⟩

end Document
end Lexis
