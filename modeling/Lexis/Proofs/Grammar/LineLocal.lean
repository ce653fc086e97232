import Lexis.Proofs.Grammar.Opening

namespace Lexis
namespace Grammar

/-!
Grammars scan line by line.

Every kind of lexeme is cut by a line rule, except for strings and the two
comments with closers, and a tag is left at every line's end.  Hence a grammar's
scanner is line-local, provided that its operators do not include the line
feed: a run of operators would otherwise take line ends along without reporting
them.
-/

/-! ## Strings and comments -/

def stringConstruct (quote : Char) (multiline : Bool) : Construct where
  category := .string
  state := .inString quote multiline
  body := Body.ofString quote multiline

def closer (markup : Bool) : Text :=
  if markup then markupCloser else blockCloser

def commentConstruct (markup : Bool) : Construct where
  category := .comment
  state := .inComment true markup
  body := Body.ofComment (closer markup)

theorem isLineLocal_string {quote : Char} (noFeed : quote ≠ '\n') (multiline : Bool) :
    (stringConstruct quote multiline).IsLineLocal where
  append {text} more whole nonempty := by
    apply Body.ofString_append multiline more
    intro _
    exact whole.endsOutside nonempty (by simp [Ne.symm noFeed])
  whole := Body.whole_ofString quote multiline
  rest_of_open := Body.rest_of_open_ofString
  lineFeeds := Body.lineFeeds_ofString noFeed multiline
  rest_of_closed whole closed _ := Body.rest_ne_nil_of_closed_ofString noFeed whole closed
  isOpen := State.noConfusion
  quote_ne_feed same := noFeed (Option.some.inj same)
  category_ne := Category.noConfusion
  body_nil := rfl
  text_of_taken := Body.rest_of_taken_ofString

theorem noFeed_closer (markup : Bool) : '\n' ∉ closer markup := by
  cases markup <;> decide

theorem isLineLocal_comment (markup : Bool) : (commentConstruct markup).IsLineLocal where
  append {text} more whole nonempty := by
    apply Body.ofComment_append more
    intro _
    exact whole.endsOutside nonempty fun inside =>
      noFeed_closer markup (List.dropLast_subset _ inside)
  whole := Body.whole_ofComment (closer markup)
  rest_of_open := Body.rest_of_open_ofComment
  lineFeeds := Body.lineFeeds_ofComment (noFeed_closer markup)
  rest_of_closed whole closed _ :=
    Body.rest_ne_nil_of_closed_ofComment (noFeed_closer markup) whole closed
  isOpen := State.noConfusion
  quote_ne_feed := by simp [commentConstruct, State.quote?]
  category_ne := Category.noConfusion
  body_nil := rfl
  text_of_taken empty := by
    have present : closer markup ≠ [] := by cases markup <;> decide
    exact Or.inl (Body.rest_of_taken_ofComment present empty)

theorem resumes_string (grammar : Grammar) (quote : Char) (multiline : Bool) :
    grammar.scanner.Resumes false grammar.scan (stringConstruct quote multiline) :=
  fun _ => rfl

theorem resumes_comment (grammar : Grammar) (markup : Bool) :
    grammar.scanner.Resumes false grammar.scan (commentConstruct markup) :=
  fun _ => rfl

/-! ## The kinds of lexemes -/

variable {grammar : Grammar} {inTag : Bool} {head : Char} {tail : Text}

private theorem lineStep_withBody {construct : Construct} (isLineLocal : construct.IsLineLocal)
    (resumes : grammar.scanner.Resumes false grammar.scan construct) (opener front : Text)
    (noFeed : '\n' ∉ head :: opener) (parts : tail = opener ++ front)
    (next : forall more, Text.Seam (head :: tail) more ->
      grammar.scanner.next inTag head (tail ++ more) =
        withBody construct.category construct.state inTag ((tail ++ more).take opener.length)
          (construct.body ((tail ++ more).drop opener.length))) :
    grammar.scanner.LineStep false false grammar.scan inTag head tail := by
  refine .construct construct construct.body opener front (fun count => inTag && count == 0)
    isLineLocal isLineLocal.toReadBy resumes noFeed parts ?_ fun more seam => ?_
  · intro count positive
    simp [Nat.ne_of_gt positive]
  · rw [next more seam, parts, List.append_assoc, List.take_left, List.drop_left, withBody]

private theorem lineStep_string {quote : Char} {tripled : Bool}
    (begins : grammar.Begins head tail (.string quote tripled))
    (next : forall more, Text.Seam (head :: tail) more ->
      grammar.scanner.next inTag head (tail ++ more) =
        grammar.stringStep inTag quote tripled (tail ++ more)) :
    grammar.scanner.LineStep false false grammar.scan inTag head tail := by
  rcases begins with ⟨rfl, isQuote, quotes⟩
  have noFeed : head ≠ '\n' := by
    rcases isQuote_cases isQuote with rfl | rfl | rfl <;> decide
  have resumes := grammar.resumes_string head
    (tripled || head == '`' && grammar.features.multilineStrings)
  cases tripled with
  | false =>
      exact lineStep_withBody (isLineLocal_string noFeed _) resumes [] tail
        (by simpa using Ne.symm noFeed) rfl next
  | true =>
      rcases quotes rfl with ⟨rest, rfl⟩
      exact lineStep_withBody (isLineLocal_string noFeed _) resumes [head, head] rest
        (by simpa using Ne.symm noFeed) rfl next

private theorem lineStep_tagEnd {closer : Text}
    (begins : grammar.Begins head tail (.tagEnd closer))
    (next : forall more, Text.Seam (head :: tail) more ->
      grammar.scanner.next inTag head (tail ++ more) =
        within .tag false (Cut.count (closer.length - 1) (tail ++ more))) :
    grammar.scanner.LineStep false false grammar.scan inTag head tail := by
  rcases begins with ⟨isCloser, opens⟩
  rcases List.isPrefixOf_iff_prefix.mp opens with ⟨rest, same⟩
  simp only [tagClosers, List.mem_cons, List.not_mem_nil, or_false] at isCloser
  rcases isCloser with rfl | rfl | rfl
  · rcases List.cons.inj same with ⟨rfl, -⟩
    exact .within .tag false (Cut.stop tail) (by simp [Cut.stop]) next
  all_goals
    rcases List.cons.inj same with ⟨rfl, rfl⟩
    exact .within .tag false { taken := ['>'], rest := rest } (by simp) next

theorem callFollows_append {text more : Text} (settled : text.Settles more) :
    callFollows (text ++ more) = callFollows text := by
  have isLineRule : Cut.IsLineRule (Cut.run (· == ' ')) := Cut.isLineRule_run (by decide)
  have same := congrArg Cut.rest (isLineRule.append settled)
  have rest := isLineRule.settles_rest (Cut.whole_run _ text) settled
  simp only [Cut.run, Cut.extend] at same rest
  rw [callFollows, same, rest.head?_append, callFollows]

private theorem lineStep_word (other : head ≠ '\n')
    (next : forall more, Text.Seam (head :: tail) more ->
      grammar.scanner.next inTag head (tail ++ more) = grammar.wordStep inTag head (tail ++ more)) :
    grammar.scanner.LineStep false false grammar.scan inTag head tail := by
  have isLineRule : Cut.IsLineRule (Cut.run isWordPart) := Cut.isLineRule_run (by decide +kernel)
  refine .within (grammar.wordStep inTag head tail).category inTag (Cut.run isWordPart tail) ?_
    fun more seam => ?_
  · simpa [Ne.symm other] using isLineRule.noFeed tail
  · have settled := seam.settles other
    have same := isLineRule.append settled
    have rest := isLineRule.settles_rest (Cut.whole_run _ tail) settled
    rw [next more seam]
    simp only [wordStep, same, Cut.extend, wordCategory, callFollows_append rest]
    rfl

theorem lineStep (noFeed : '\n' ∉ grammar.operators) (inTag : Bool) (head : Char) (tail : Text) :
    grammar.scanner.LineStep false false grammar.scan inTag head tail := by
  have begins := grammar.begins_opening inTag head tail
  have next : forall more, Text.Seam (head :: tail) more ->
      grammar.scanner.next inTag head (tail ++ more) =
        grammar.stepOf inTag head (tail ++ more) (grammar.opening inTag head tail) := by
    intro more seam
    rw [← grammar.opening_append inTag seam]
    rfl
  generalize grammar.opening inTag head tail = kind at begins next
  cases kind with
  | blank => exact .ofRule .whitespace inTag (Cut.isLineRule_run (by decide)) begins next
  | lineBreak => exact .lineBreak begins next
  | lineComment documentation => exact .ofRule _ inTag Cut.isLineRule_toLineEnd begins next
  | blockComment =>
      rcases begins with ⟨other, rest, rfl⟩
      exact lineStep_withBody (isLineLocal_comment false) (grammar.resumes_comment false) ['*'] rest
        (by simpa using Ne.symm other) rfl next
  | markupComment =>
      rcases begins with ⟨other, rest, rfl⟩
      exact lineStep_withBody (isLineLocal_comment true) (grammar.resumes_comment true)
        ['!', '-', '-'] rest (by simpa using Ne.symm other) rfl next
  | tagStart => exact .ofRule .tag true isLineRule_tagName begins next
  | tagEnd closer => exact lineStep_tagEnd begins next
  | string quote tripled => exact lineStep_string begins next
  | number => exact .ofRule .number inTag (Numeral.isLineRule_cut _ head) begins next
  | attributeName =>
      exact .ofRule .attributeName inTag (Cut.isLineRule_run (by decide +kernel)) begins next
  | directive =>
      exact .ofRule .preprocessor inTag (Cut.isLineRule_run (by decide +kernel)) begins next
  | word => exact lineStep_word begins next
  | operator =>
      have outside : grammar.isOperator '\n' = false := by simpa [isOperator] using noFeed
      exact .ofRule .operator inTag (Cut.isLineRule_run outside) begins next
  | single => exact .ofRule _ inTag Cut.isLineRule_stop begins next

theorem isLineLocal_scanner (noFeed : '\n' ∉ grammar.operators) :
    grammar.scanner.IsLineLocal false false grammar.scan where
  step := lineStep noFeed
  category_lineBreak inTag head tail breaks := by
    have kind := grammar.opening_of_isLineBreak inTag tail breaks
    simp only [scanner, next, kind, stepOf, Step.lineBreak]
  scan_normal _ := rfl
  scan_state state quote := by
    cases state with
    | normal => exact Or.inl fun _ => rfl
    | inString mark multiline =>
        have noFeed : mark ≠ '\n' := fun same => quote (congrArg some same)
        exact Or.inr ⟨stringConstruct mark multiline, isLineLocal_string noFeed multiline,
          grammar.resumes_string mark multiline, fun _ => rfl⟩
    | inComment multiline markup =>
        exact Or.inr ⟨commentConstruct markup, isLineLocal_comment markup,
          grammar.resumes_comment markup, fun _ => rfl⟩

end Grammar
end Lexis
