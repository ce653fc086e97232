import Lexis.Proofs.Grammar.Opening

namespace Lexis
namespace Grammar

/-!
What each kind of lexeme begins with.

The kinds are tried in a fixed order, so a kind tells which characters and which
features of the grammar called for it, and for operators also that no comment
begins at the same place.  Conversely, the openers of the constructs that can be
left open are recognised wherever a lexeme begins.
-/

variable {grammar : Grammar} {inTag : Bool} {head : Char} {tail : Text}

/-- What called for a kind of lexeme: the text that begins with `head`, and the grammar. -/
def Announces (grammar : Grammar) (head : Char) (tail : Text) : Opening -> Prop
  | .lineComment _ =>
      Text.opensWith ['/', '/'] (head :: tail) = true ∨
        grammar.features.hashComments = true ∧ head = '#'
  | .blockComment => Text.opensWith ['/', '*'] (head :: tail) = true
  | .markupComment =>
      grammar.features.markupComments = true ∧
        Text.opensWith ['<', '!', '-', '-'] (head :: tail) = true
  | .tagStart | .tagEnd _ => grammar.features.tags = true
  | .string quote tripled =>
      head = quote ∧ grammar.features.isQuote quote = true ∧
        tripled = grammar.features.opensTripled quote (head :: tail)
  | .operator =>
      grammar.isOperator head = true ∧ ¬ Text.opensWith ['/', '/'] (head :: tail) = true ∧
        ¬ Text.opensWith ['/', '*'] (head :: tail) = true
  | _ => True

theorem tags_of_tagCloser? {text closer : Text}
    (found : grammar.tagCloser? inTag text = some closer) : grammar.features.tags = true := by
  simp only [tagCloser?] at found
  split at found
  · next inside => exact (Bool.and_eq_true_iff.mp inside).1
  · exact absurd found (by simp)

theorem announces_opening (grammar : Grammar) (inTag : Bool) (head : Char) (tail : Text) :
    grammar.Announces head tail (grammar.opening inTag head tail) := by
  have chooses := grammar.chooses_opening inTag head tail
  generalize grammar.opening inTag head tail = kind at chooses ⊢
  cases chooses with
  | slashes opens _ => exact Or.inl opens
  | blockComment opens => exact opens
  | numberSign hash isSign => exact Or.inr ⟨hash, isSign⟩
  | markupComment markup opens => exact ⟨markup, opens⟩
  | tagStart tags _ _ => exact tags
  | tagEnd found => exact tags_of_tagCloser? found
  | string isQuote => exact ⟨rfl, isQuote, rfl⟩
  | operator isOperator noSlashes noStar => exact ⟨isOperator, noSlashes, noStar⟩
  | _ => trivial

/-! ## Openers of constructs -/

theorem opening_of_slashes (grammar : Grammar) (inTag : Bool) (tail : Text) :
    grammar.opening inTag '/' ('/' :: tail) =
      .lineComment (grammar.features.docComments && isDocComment ('/' :: '/' :: tail)) := by
  have notBlank : isBlank '/' = false := by decide
  have notBreak : isLineBreak '/' = false := by decide
  have opens : Text.opensWith ['/', '/'] ('/' :: '/' :: tail) = true := rfl
  simp only [opening, notBlank, notBreak, opens, Bool.false_eq_true, if_false, if_true]

theorem opening_of_star (grammar : Grammar) (inTag : Bool) (tail : Text) :
    grammar.opening inTag '/' ('*' :: tail) = .blockComment := by
  have notBlank : isBlank '/' = false := by decide
  have notBreak : isLineBreak '/' = false := by decide
  have noSlashes : Text.opensWith ['/', '/'] ('/' :: '*' :: tail) = false := rfl
  have opens : Text.opensWith ['/', '*'] ('/' :: '*' :: tail) = true := rfl
  simp only [opening, notBlank, notBreak, noSlashes, opens, Bool.false_eq_true, if_false, if_true]

theorem opening_of_markup (inTag : Bool) (markup : grammar.features.markupComments = true)
    (tail : Text) : grammar.opening inTag '<' ('!' :: '-' :: '-' :: tail) = .markupComment := by
  have notBlank : isBlank '<' = false := by decide
  have notBreak : isLineBreak '<' = false := by decide
  have notHash : ('<' == '#') = false := by decide
  have noSlashes : Text.opensWith ['/', '/'] ('<' :: '!' :: '-' :: '-' :: tail) = false := rfl
  have noStar : Text.opensWith ['/', '*'] ('<' :: '!' :: '-' :: '-' :: tail) = false := rfl
  have opens : Text.opensWith ['<', '!', '-', '-'] ('<' :: '!' :: '-' :: '-' :: tail) = true := rfl
  simp only [opening, notBlank, notBreak, notHash, noSlashes, noStar, opens, markup,
    Bool.false_eq_true, Bool.and_false, Bool.false_and, Bool.and_true, if_false, if_true]

/-! ## Marks -/

/-- The characters that comments and the brackets of tags begin with. -/
def earlyMarks : List Char :=
  ['/', '#', '<', '>', '?']

/-- Only three marks can begin the closer of a tag. -/
theorem tagCloser?_eq_none (unmarked : head ∉ earlyMarks) :
    grammar.tagCloser? inTag (head :: tail) = none := by
  simp only [earlyMarks, List.mem_cons, not_or] at unmarked
  rcases unmarked with ⟨notSlash, -, -, notGreater, notQuestion, -⟩
  simp only [tagCloser?, tagClosers, List.find?_cons, List.find?_nil, Text.opensWith,
    List.isPrefixOf, beq_false_of_ne (Ne.symm notSlash), beq_false_of_ne (Ne.symm notGreater),
    beq_false_of_ne (Ne.symm notQuestion), Bool.false_and, ite_self]

/-- A character that begins no blank, line break, comment or tag is left to the later rules. -/
theorem opening_of_unmarked (notBlank : isBlank head = false) (notBreak : isLineBreak head = false)
    (unmarked : head ∉ earlyMarks) :
    grammar.opening inTag head tail =
      if grammar.features.isQuote head then
        .string head (grammar.features.opensTripled head (head :: tail))
      else if isDigit head || head == '.' && tail.head?.any isDigit then .number
      else if grammar.features.attributes && head == '@' then .attributeName
      else if isWordStart head then .word
      else if grammar.isOperator head then .operator
      else .single := by
  have noCloser : grammar.tagCloser? inTag (head :: tail) = none := tagCloser?_eq_none unmarked
  simp only [earlyMarks, List.mem_cons, not_or] at unmarked
  rcases unmarked with ⟨notSlash, notHash, notAngle, -⟩
  simp only [opening, notBlank, notBreak, noCloser, Text.opensWith, List.isPrefixOf,
    beq_false_of_ne (Ne.symm notSlash), beq_false_of_ne (Ne.symm notAngle),
    beq_false_of_ne notHash, beq_false_of_ne notAngle, Bool.and_false, Bool.false_and,
    Bool.false_eq_true, if_false]

/-- A quote begins a string, also inside of tags. -/
theorem opening_of_quote {quote : Char} (isQuote : grammar.features.isQuote quote = true)
    (tail : Text) :
    grammar.opening inTag quote tail =
      .string quote (grammar.features.opensTripled quote (quote :: tail)) := by
  have others : isBlank quote = false ∧ isLineBreak quote = false ∧ quote ∉ earlyMarks := by
    rcases isQuote_cases isQuote with rfl | rfl | rfl <;> decide
  rcases others with ⟨notBlank, notBreak, unmarked⟩
  rw [opening_of_unmarked notBlank notBreak unmarked, if_pos isQuote]

end Grammar
end Lexis
