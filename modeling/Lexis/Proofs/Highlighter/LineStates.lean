import Lexis.Proofs.Highlighter.Lines

namespace Lexis
namespace Method

/-!
The states that a scan reports.

A scan reports one state for each line feed of its text, and that state is the
one in which a scan of the text up to the line feed would have ended
(`lineStates_scan`).  So the text behind a line can be scanned anew without the
lines before it, as soon as their last state is known.
-/

variable {method : Method} {state : State}

/-- A plain text leaves nothing open at any of its line feeds. -/
theorem lineStates_scanPlain (text : Text) :
    (scanPlain text).lineStates = List.replicate text.lineFeeds .normal := by
  by_cases empty : text = []
  · subst empty
    rfl
  · simp [Scan.lineStates, scanPlain, empty]

theorem eq_plain_or_readsLines (method : Method)
    (feedsEndLines : forall grammar, method = .byGrammar grammar -> '\n' ∉ grammar.operators) :
    method = .plain ∨ method.ReadsLines := by
  cases method with
  | plain => exact Or.inl rfl
  | byGrammar grammar => exact Or.inr (feedsEndLines grammar rfl)
  | markdown => exact Or.inr trivial

/-- The state reported at a line feed is the last one of a scan that stops behind it. -/
theorem ReadsLines.getElem?_lineStates (readsLines : method.ReadsLines)
    (noFeed : state.quote? ≠ some '\n') (front back : Text) :
    (method.scan state (front ++ '\n' :: back)).lineStates[front.lineFeeds]? =
      some (method.scan state (front ++ ['\n'])).endState := by
  have whole : Text.IsWholeLines (front ++ ['\n']) := Or.inr (by simp)
  have parts : front ++ '\n' :: back = front ++ ['\n'] ++ back := by simp
  have length : (method.scan state (front ++ ['\n'])).lineStates.length = front.lineFeeds + 1 :=
    (readsLines.length_lineStates noFeed _).trans (Text.lineFeeds_append front ['\n'])
  have last := readsLines.getLast?_lineStates noFeed whole (by simp)
  rw [List.getLast?_eq_getElem?, length, Nat.add_sub_cancel] at last
  rw [parts, readsLines.scan_append noFeed back whole, Scan.lineStates_append,
    List.getElem?_append_left (by omega), last]

/--
A scan reports as many states as its text has line feeds.  The state at each of
them is the end state of a scan, from the same state on, of the text up to and
with the line feed.  None of them depends on where the text lies.
-/
theorem lineStates_scan (method : Method)
    (feedsEndLines : forall grammar, method = .byGrammar grammar -> '\n' ∉ grammar.operators)
    (state : State) (noFeed : state.quote? ≠ some '\n') (text : Text) :
    (method.scan state text).lineStates.length = text.lineFeeds ∧
      forall front back, text = front ++ '\n' :: back ->
        (method.scan state text).lineStates[front.lineFeeds]? =
          some (method.scan state (front ++ ['\n'])).endState := by
  rcases eq_plain_or_readsLines method feedsEndLines with rfl | readsLines
  · rw [scan, lineStates_scanPlain]
    constructor
    · exact List.length_replicate
    · rintro front back rfl
      have inside : front.lineFeeds < (front ++ '\n' :: back).lineFeeds := by
        rw [Text.lineFeeds_append]
        exact Nat.lt_add_of_pos_right (List.count_pos_iff.mpr List.mem_cons_self)
      rw [List.getElem?_replicate_of_lt inside]
      rfl
  · constructor
    · exact readsLines.length_lineStates noFeed text
    · rintro front back rfl
      exact readsLines.getElem?_lineStates noFeed front back

/--
A string that an escaped line break carries on, a line break outside of it, and
one inside a comment, in a grammar that takes quotes for operators.
-/
theorem lineStates_scan_of_escaped_feed :
    let method := Method.byGrammar { operators := ['"', '*'] }
    let front : Text := ['x', '\\', '\n', '"', '\r', '\n', '/', '*']
    (forall grammar, method = .byGrammar grammar -> '\n' ∉ grammar.operators) ∧
      (State.inString '"' false).quote? ≠ some '\n' ∧
      (method.scan (.inString '"' false) (front ++ ['\n', '*', '/'])).lineStates =
        [.inString '"' false, .normal, .blockComment] ∧
      (method.scan (.inString '"' false) (front ++ ['\n'])).endState = .blockComment := by
  intro method front
  have feedsEndLines : forall grammar, method = .byGrammar grammar -> '\n' ∉ grammar.operators := by
    intro grammar same
    rw [← Method.byGrammar.inj same]
    decide
  have noFeed : (State.inString '"' false).quote? ≠ some '\n' := by decide
  have states : (method.scan (.inString '"' false) (front ++ ['\n', '*', '/'])).lineStates =
      [.inString '"' false, .normal, .blockComment] := by decide +kernel
  have entries := (lineStates_scan method feedsEndLines (.inString '"' false) noFeed
    (front ++ ['\n', '*', '/'])).2 front ['*', '/'] rfl
  rw [states] at entries
  exact ⟨feedsEndLines, noFeed, states, (Option.some.inj entries).symm⟩

end Method
end Lexis
