import Lexis.Proofs.Highlighter.LineStates

namespace Lexis
namespace Method

/-!
Lines scanned one after the other.

Each line is scanned from the state in which the one before it ended, and the
pieces of a construct that goes over a line's end are joined.  Whatever the
method takes a line feed for, the tokens partition the lines.  If it reads line
feeds as line ends, they are those of a single scan (`tokensByLine_eq`).
-/

variable {method : Method}

/-- The tokens of lines that are scanned one after the other from a state and an offset on. -/
def tokensByLine (method : Method) : Nat -> State -> List Text -> List Token
  | _, _, [] => []
  | offset, state, line :: lines =>
      let scan := method.scan state line
      Token.join (!scan.endState.isNormal) (scan.tokens offset)
        (tokensByLine method (offset + line.size) scan.endState lines)

theorem partitions_tokensByLine (offset : Nat) (state : State) (lines : List Text) :
    Token.Partitions offset lines.flatten (method.tokensByLine offset state lines) := by
  induction lines generalizing offset state with
  | nil => exact Token.partitions_nil offset
  | cons line lines ih =>
      have first := (method.covers_scan state line).partitions offset
      exact first.join _ (ih (offset + line.size) (method.scan state line).endState)

theorem ReadsLines.tokensByLine_eq (readsLines : method.ReadsLines) {state : State}
    (noFeed : state.quote? ≠ some '\n') (offset : Nat) {lines : List Text} (present : lines ≠ [])
    (whole : forall line, line ∈ lines.dropLast -> Text.IsWholeLines line) :
    method.tokensByLine offset state lines = (method.scan state lines.flatten).tokens offset := by
  induction lines generalizing offset state with
  | nil => exact absurd rfl present
  | cons line lines ih =>
      by_cases single : lines = []
      · rw [single, tokensByLine, tokensByLine, Token.join_nil_right, List.flatten_cons,
          List.flatten_nil, List.append_nil]
      · rw [List.dropLast_cons_of_ne_nil single] at whole
        have entry := readsLines.quote_endState noFeed line
        have rest := ih entry (offset + line.size) single
          fun other member => whole other (List.mem_cons_of_mem _ member)
        rw [tokensByLine, rest, List.flatten_cons,
          readsLines.tokens_append noFeed lines.flatten (whole line List.mem_cons_self) offset]

end Method
end Lexis
