import Lexis.Proofs.Grammar.Rules
import Lexis.Proofs.Scanner.Pieces

namespace Lexis

/-!
Kinds of lexemes are told within a line.

What kind of lexeme begins at a place depends on characters of its line alone.
So it is the same if text is added behind the whole lines that begin there, and
its opener ends no line.  The kind is chosen by the first rule that applies, and
what that rule has found is known of the text (`Grammar.chooses_opening`).
-/

variable {head : Char} {tail more : Text}

theorem isDocComment_seam (seam : Text.Seam (head :: tail) more) :
    isDocComment (head :: (tail ++ more)) = isDocComment (head :: tail) := by
  simp (disch := decide) only [isDocComment, seam.opensWith_append]

theorem namesTag_append (settled : tail.Settles more) :
    namesTag (tail ++ more) = namesTag tail := by
  rcases settled with feed | rfl
  · cases tail with
    | nil => exact absurd feed (by simp)
    | cons mark tail =>
        by_cases other : mark = '\n'
        · subst other
          have notLetter : isLetter '\n' = false := by decide +kernel
          have notMark : isTagMark '\n' = false := by decide
          simp [namesTag, notLetter, notMark]
        · have inTail := (List.mem_cons.mp feed).resolve_left (Ne.symm other)
          simp only [namesTag, List.cons_append, Text.head?_append_of_feed more inTail]
  · rw [List.append_nil]

namespace Grammar

theorem atDirective_seam (grammar : Grammar) (seam : Text.Seam (head :: tail) more) :
    grammar.atDirective (head :: (tail ++ more)) = grammar.atDirective (head :: tail) := by
  simp (disch := decide) only [atDirective, directives, List.any_cons, List.any_nil,
    seam.opensWith_append]

theorem tagCloser?_seam (grammar : Grammar) (inTag : Bool)
    (seam : Text.Seam (head :: tail) more) :
    grammar.tagCloser? inTag (head :: (tail ++ more)) =
      grammar.tagCloser? inTag (head :: tail) := by
  simp (disch := decide) only [tagCloser?, tagClosers, List.find?_cons, List.find?_nil,
    seam.opensWith_append]

theorem opensTripled_seam (features : Features) (quote : Char)
    (seam : Text.Seam (head :: tail) more) :
    features.opensTripled quote (head :: (tail ++ more)) =
      features.opensTripled quote (head :: tail) := by
  simp only [Features.opensTripled, seam.opensWith_append _ (Body.noFeed_tripled quote)]

theorem opening_of_isLineBreak (grammar : Grammar) (inTag : Bool) (tail : Text)
    (breaks : isLineBreak head = true) : grammar.opening inTag head tail = .lineBreak := by
  have notBlank : isBlank head = false := by simp [isBlank, breaks]
  rw [opening, notBlank, breaks, if_neg Bool.false_ne_true, if_pos rfl]

/-- The kind of a lexeme is told within its line. -/
theorem opening_append (grammar : Grammar) (inTag : Bool)
    (seam : Text.Seam (head :: tail) more) :
    grammar.opening inTag head (tail ++ more) = grammar.opening inTag head tail := by
  by_cases breaks : isLineBreak head = true
  · rw [opening_of_isLineBreak grammar inTag _ breaks,
      opening_of_isLineBreak grammar inTag _ breaks]
  · have settled := seam.settles (Cut.ne_feed_of_not_isLineBreak breaks)
    have slashes := seam.opensWith_append ['/', '/'] (by decide)
    have starred := seam.opensWith_append ['/', '*'] (by decide)
    have angled := seam.opensWith_append ['<', '!', '-', '-'] (by decide)
    simp only [opening, slashes, starred, angled, isDocComment_seam seam,
      namesTag_append settled, settled.head?_append, grammar.atDirective_seam seam,
      grammar.tagCloser?_seam inTag seam, opensTripled_seam grammar.features head seam]

/-- The rules that choose the kind of a lexeme, each with what it finds in the text. -/
inductive Chooses (grammar : Grammar) (inTag : Bool) (head : Char) (tail : Text) : Opening -> Prop
  | blank (blank : isBlank head = true) : Chooses grammar inTag head tail .blank
  | lineBreak (breaks : isLineBreak head = true) : Chooses grammar inTag head tail .lineBreak
  | slashes (opens : Text.opensWith ['/', '/'] (head :: tail) = true) (documentation : Bool) :
      Chooses grammar inTag head tail (.lineComment documentation)
  | blockComment (opens : Text.opensWith ['/', '*'] (head :: tail) = true) :
      Chooses grammar inTag head tail .blockComment
  | numberSign (hash : grammar.features.hashComments = true) (isSign : head = '#') :
      Chooses grammar inTag head tail (.lineComment false)
  | markupComment (markup : grammar.features.markupComments = true)
      (opens : Text.opensWith ['<', '!', '-', '-'] (head :: tail) = true) :
      Chooses grammar inTag head tail .markupComment
  | tagStart (tags : grammar.features.tags = true) (isAngle : head = '<')
      (named : namesTag tail = true) : Chooses grammar inTag head tail .tagStart
  | tagEnd {closer : Text} (found : grammar.tagCloser? inTag (head :: tail) = some closer) :
      Chooses grammar inTag head tail (.tagEnd closer)
  | string (isQuote : grammar.features.isQuote head = true) :
      Chooses grammar inTag head tail
        (.string head (grammar.features.opensTripled head (head :: tail)))
  | number (isNumber : (isDigit head || head == '.' && tail.head?.any isDigit) = true) :
      Chooses grammar inTag head tail .number
  | attributeName (attributes : grammar.features.attributes = true) (isSign : head = '@') :
      Chooses grammar inTag head tail .attributeName
  | directive (preprocessor : grammar.features.preprocessor = true) (isSign : head = '#') :
      Chooses grammar inTag head tail .directive
  | word (starts : isWordStart head = true) : Chooses grammar inTag head tail .word
  | operator (isOperator : grammar.isOperator head = true)
      (noSlashes : ¬ Text.opensWith ['/', '/'] (head :: tail) = true)
      (noStar : ¬ Text.opensWith ['/', '*'] (head :: tail) = true) :
      Chooses grammar inTag head tail .operator
  | single : Chooses grammar inTag head tail .single

theorem chooses_opening (grammar : Grammar) (inTag : Bool) (head : Char) (tail : Text) :
    grammar.Chooses inTag head tail (grammar.opening inTag head tail) := by
  simp only [opening]
  apply iteInduction
  · exact fun blank => .blank blank
  intro _
  apply iteInduction
  · exact fun breaks => .lineBreak breaks
  intro _
  apply iteInduction
  · exact fun opens => .slashes opens _
  intro noSlashes
  apply iteInduction
  · exact fun opens => .blockComment opens
  intro noStar
  apply iteInduction
  · intro hash
    simp only [Bool.and_eq_true, beq_iff_eq] at hash
    exact .numberSign hash.1.1 hash.1.2
  intro _
  apply iteInduction
  · intro markup
    rcases Bool.and_eq_true_iff.mp markup with ⟨markup, opens⟩
    exact .markupComment markup opens
  intro _
  apply iteInduction
  · intro tag
    simp only [Bool.and_eq_true, beq_iff_eq] at tag
    exact .tagStart tag.1.1 tag.1.2 tag.2
  intro _
  cases found : grammar.tagCloser? inTag (head :: tail) with
  | some closer => exact .tagEnd found
  | none =>
      apply iteInduction
      · exact fun isQuote => .string isQuote
      intro _
      apply iteInduction
      · exact fun isNumber => .number isNumber
      intro _
      apply iteInduction
      · intro marked
        simp only [Bool.and_eq_true, beq_iff_eq] at marked
        exact .attributeName marked.1 marked.2
      intro _
      apply iteInduction
      · intro marked
        simp only [Bool.and_eq_true, beq_iff_eq] at marked
        exact .directive marked.1 marked.2
      intro _
      apply iteInduction
      · exact fun starts => .word starts
      intro _
      apply iteInduction
      · exact fun isOperator => .operator isOperator noSlashes noStar
      · exact fun _ => .single

/-- What the kind of a lexeme tells about the characters it begins with. -/
def Begins (grammar : Grammar) (head : Char) (tail : Text) : Opening -> Prop
  | .lineBreak => isLineBreak head = true
  | .blockComment => head ≠ '\n' ∧ exists rest, tail = '*' :: rest
  | .markupComment => head ≠ '\n' ∧ exists rest, tail = '!' :: '-' :: '-' :: rest
  | .tagEnd closer => closer ∈ tagClosers ∧ Text.opensWith closer (head :: tail) = true
  | .string quote tripled =>
      head = quote ∧ grammar.features.isQuote quote = true ∧
        (tripled = true -> exists rest, tail = quote :: quote :: rest)
  | _ => head ≠ '\n'

theorem isQuote_cases {features : Features} {quote : Char}
    (isQuote : features.isQuote quote = true) : quote = '"' ∨ quote = '\'' ∨ quote = '`' := by
  simp only [Features.isQuote, Bool.or_eq_true, Bool.and_eq_true, beq_iff_eq] at isQuote
  rcases isQuote with (same | ⟨same, -⟩) | ⟨same, -⟩
  · exact Or.inl same
  · exact Or.inr (Or.inl same)
  · exact Or.inr (Or.inr same)

theorem quotes_of_opensTripled {features : Features} {quote : Char}
    (isQuote : features.isQuote quote = true)
    (tripled : features.opensTripled quote (quote :: tail) = true) :
    exists rest, tail = quote :: quote :: rest := by
  simp only [Features.opensTripled, Bool.and_eq_true, bne_iff_ne, ne_eq] at tripled
  rcases tripled with ⟨⟨-, notBacktick⟩, opens⟩
  rcases List.isPrefixOf_iff_prefix.mp opens with ⟨rest, same⟩
  rcases isQuote_cases isQuote with rfl | rfl | rfl
  · exact ⟨rest, (List.cons.inj same).2.symm⟩
  · exact ⟨rest, (List.cons.inj same).2.symm⟩
  · exact absurd rfl notBacktick

theorem tagCloser?_cases {grammar : Grammar} {inTag : Bool} {text closer : Text}
    (found : grammar.tagCloser? inTag text = some closer) :
    closer ∈ tagClosers ∧ Text.opensWith closer text = true := by
  simp only [tagCloser?] at found
  split at found
  · exact ⟨List.mem_of_find?_eq_some found, by simpa using List.find?_some found⟩
  · exact absurd found (by simp)

theorem begins_opening (grammar : Grammar) (inTag : Bool) (head : Char) (tail : Text) :
    grammar.Begins head tail (grammar.opening inTag head tail) := by
  by_cases breaks : isLineBreak head = true
  · rw [opening_of_isLineBreak grammar inTag tail breaks]
    exact breaks
  · have other := Cut.ne_feed_of_not_isLineBreak breaks
    have chooses := grammar.chooses_opening inTag head tail
    generalize grammar.opening inTag head tail = kind at chooses ⊢
    cases chooses with
    | lineBreak isBreak => exact isBreak
    | blockComment opens =>
        rcases List.isPrefixOf_iff_prefix.mp opens with ⟨rest, same⟩
        exact ⟨other, rest, (List.cons.inj same).2.symm⟩
    | markupComment _ opens =>
        rcases List.isPrefixOf_iff_prefix.mp opens with ⟨rest, same⟩
        exact ⟨other, rest, (List.cons.inj same).2.symm⟩
    | tagEnd found => exact tagCloser?_cases found
    | string isQuote => exact ⟨rfl, isQuote, quotes_of_opensTripled isQuote⟩
    | _ => exact other

end Grammar
end Lexis
