import Lexis.Grammar.Scripted
import Lexis.Proofs.Grammar.Kinds
import Lexis.Proofs.Grammar.Numeral
import Lexis.Proofs.Grammar.Steps

namespace Lexis
namespace Grammar

/-!
Numbers in a text.

Wherever a lexeme begins with a digit, or with a point before a digit, no other
rule comes first.  So the tokens that begin so outside of constructs are numbers,
and no others are.  Each of them takes the longest number that stands there
(`Grammar.numbers_munch`).
-/

variable {grammar : Grammar} {inTag : Bool} {head : Char} {tail : Text}

/-- Only a digit, or a point before a digit, announces a number. -/
theorem number_ne_opening (other : Numeral.begins (head :: tail) = false) :
    .number ≠ grammar.opening inTag head tail := by
  intro isNumber
  have chooses := grammar.chooses_opening inTag head tail
  rw [← isNumber] at chooses
  cases chooses with
  | number begins => exact Bool.false_ne_true (other.symm.trans begins)

/-- A digit, or a point before a digit, announces nothing else than a number. -/
theorem opening_of_begins (grammar : Grammar) (inTag : Bool)
    (isNumber : Numeral.begins (head :: tail) = true) :
    grammar.opening inTag head tail = .number := by
  have mark : head ∈ '.' :: Numeral.decimalDigits := by
    rcases Bool.or_eq_true_iff.mp isNumber with digit | point
    · exact List.mem_cons_of_mem _ (Numeral.isDigit_iff.mp digit)
    · exact List.mem_cons.mpr (Or.inl (beq_iff_eq.mp (Bool.and_eq_true_iff.mp point).1))
  have others : forall character, character ∈ '.' :: Numeral.decimalDigits ->
      isBlank character = false ∧ isLineBreak character = false ∧ character ∉ earlyMarks ∧
        character ∉ ['"', '\'', '`'] :=
    Numeral.forall_mem_of_all (by decide +kernel)
  rcases others head mark with ⟨notBlank, notBreak, unmarked, notQuote⟩
  have noString : ¬ grammar.features.isQuote head = true := by
    intro isQuote
    apply notQuote
    rcases isQuote_cases isQuote with rfl | rfl | rfl <;> decide
  rw [opening_of_unmarked notBlank notBreak unmarked, if_neg noString]
  exact if_pos isNumber

/-- The category tells numbers. -/
theorem category_eq_number_iff :
    (grammar.next inTag head tail).category = .number <->
      Numeral.begins (head :: tail) = true := by
  constructor
  · intro isNumber
    have tells := grammar.tells_next inTag head tail
    rw [isNumber] at tells
    rw [← Bool.not_eq_false]
    exact fun other => number_ne_opening other tells.symm
  · intro begins
    rw [next, opening_of_begins grammar inTag begins]
    rfl

/--
Where a token begins, and no construct of an earlier text goes on there, it is a
number exactly if a digit stands there or a point before a digit.  Then it takes
the longest number that stands there, as a regular expression describes them.
-/
theorem numbers_munch (grammar : Grammar) (state : State) (text : Text) {token : Token}
    (member : token ∈ (grammar.scan state text).tokens 0) :
    (token.category = .number <->
      (state = .normal ∨ 0 < token.start) ∧ Numeral.begins (text.after token.start) = true) ∧
      (token.category = .number ->
        IsLongestMatch (Numeral.pattern grammar.features.octalNumbers) (text.after token.start)
          (token.text text)) := by
  rcases exists_step_of_mem_scan member with carried | ⟨inTag, head, tail, cutsOff, outside⟩
  · have notNumber : token.category ≠ .number := by
      rcases carried.category_cases with category | category <;> rw [category] <;> decide
    have inside : ¬ (state = .normal ∨ 0 < token.start) := by
      rintro (normal | behind)
      · exact carried.inside normal
      · exact absurd carried.start_eq (Nat.ne_of_gt behind)
    exact ⟨iff_of_false notNumber fun place => inside place.1,
      fun isNumber => absurd isNumber notNumber⟩
  · rw [cutsOff.rest_eq, cutsOff.category_eq, cutsOff.text_eq]
    have isNumber : (grammar.next inTag head tail).category = .number <->
        Numeral.begins (head :: tail) = true := category_eq_number_iff
    constructor
    · refine isNumber.trans ⟨fun begins => ⟨?_, begins⟩, And.right⟩
      rcases outside with normal | behind | breaks
      · exact Or.inl normal
      · exact Or.inr behind
      · have kind := opening_of_begins grammar inTag begins
        rw [opening_of_isLineBreak grammar inTag tail breaks] at kind
        exact absurd kind (by simp)
    · intro category
      have begins := isNumber.mp category
      have taken : (grammar.next inTag head tail).cut =
          Numeral.cut grammar.features.octalNumbers head tail := by
        rw [next, opening_of_begins grammar inTag begins]
        rfl
      change IsLongestMatch _ _ (head :: (grammar.next inTag head tail).cut.taken)
      rw [taken]
      exact Numeral.isLongestMatch_cut grammar.features.octalNumbers begins

/--
Behind the rest of a comment that an earlier text has opened, two numbers stand.
A point behind an exponent does not belong to the first of them.
-/
theorem numbers_munch_of_open_comment :
    ⟨.number, 3, 8⟩ ∈ (Grammar.javaScript.scan .blockComment
        ['1', '*', '/', '1', '.', '5', 'e', '+', '.', '2']).tokens 0 ∧
      IsLongestMatch (Numeral.pattern true) ['1', '.', '5', 'e', '+', '.', '2']
        ['1', '.', '5', 'e', '+'] ∧
      ⟨.comment, 0, 3⟩ ∈ (Grammar.javaScript.scan .blockComment
        ['1', '*', '/', '1', '.', '5', 'e', '+', '.', '2']).tokens 0 := by
  have number : ⟨.number, 3, 8⟩ ∈ (Grammar.javaScript.scan .blockComment
      ['1', '*', '/', '1', '.', '5', 'e', '+', '.', '2']).tokens 0 := by decide +kernel
  have comment : ⟨.comment, 0, 3⟩ ∈ (Grammar.javaScript.scan .blockComment
      ['1', '*', '/', '1', '.', '5', 'e', '+', '.', '2']).tokens 0 := by decide +kernel
  exact ⟨number, (numbers_munch _ _ _ number).2 rfl, comment⟩

end Grammar
end Lexis
