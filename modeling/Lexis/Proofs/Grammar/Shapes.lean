import Lexis.Proofs.Grammar.Constructs
import Lexis.Proofs.Grammar.Numbers
import Lexis.Proofs.Text.MaximalRun

namespace Lexis

/-!
The shapes of tokens.

The category of a token tells what its text looks like, and also that nothing of
what follows could have been taken along: blanks, words, operators and the rests
of lines are maximal runs, numbers are longest matches, and comments with a
closer and strings end at their first closer (`Grammar.tokens_have_shapes`).
-/

/-- A word is a character that words can begin with, and all that it can go on with. -/
def IsWholeWord (front behind : Text) : Prop :=
  exists head rest, front = head :: rest ∧ isWordStart head = true ∧
    IsMaximalRun isWordPart rest behind

/-- A mark, and all that words can go on with behind it. -/
def IsMarkedWord (mark : Char) (front behind : Text) : Prop :=
  exists rest, front = mark :: rest ∧ IsMaximalRun isWordPart rest behind

/-- The front of a tag: an angle bracket, at most one further mark, and a name. -/
def IsTagFront (front behind : Text) : Prop :=
  exists marks name, front = '<' :: (marks ++ name) ∧ marks.length ≤ 1 ∧
    (forall mark, mark ∈ marks -> isTagMark mark = true) ∧ IsMaximalRun isTagNamePart name behind

namespace Grammar

/-- What a token of each category looks like, given the text behind it. -/
def HasShape (grammar : Grammar) (front behind : Text) : Category -> Prop
  | .whitespace => front ≠ [] ∧ IsMaximalRun isBlank front behind
  | .newline => front = ['\n'] ∨ front = ['\r', '\n'] ∨ front = ['\r'] ∧ behind.head? ≠ some '\n'
  | .docComment => ['/', '/'] <+: front ∧ IsRestOfLine front behind
  | .comment =>
      (['/', '/'] <+: front ∨ ['#'] <+: front) ∧ IsRestOfLine front behind ∨
        ¬ (['/', '/'] <+: front ∨ ['#'] <+: front) ∧
          exists isOpen, grammar.BeginsWith (front ++ behind) .comment front isOpen
  | .tag => front ∈ tagClosers ∨ IsTagFront front behind
  | .string => exists isOpen, grammar.BeginsWith (front ++ behind) .string front isOpen
  | .number => IsLongestMatch (Numeral.pattern grammar.features.octalNumbers) (front ++ behind) front
  | .attributeName => IsMarkedWord '@' front behind
  | .preprocessor => IsMarkedWord '#' front behind
  | .operator => front ≠ [] ∧ IsMaximalRun grammar.isOperator front behind
  | .delimiter => exists mark, front = [mark] ∧ mark ∈ ['(', ')', '[', ']', '{', '}']
  | .punctuation => exists mark, front = [mark] ∧ mark ∈ [',', '.', ';', ':']
  | .plain => exists character, front = [character]
  | _ => IsWholeWord front behind

variable {grammar : Grammar} {inTag : Bool} {head : Char} {tail text front behind : Text}

/-! ## Kinds -/

theorem hasShape_of_word {category : Category} (isWord : category.Tells .word)
    (shape : IsWholeWord front behind) : grammar.HasShape front behind category := by
  cases category with
  | whitespace | newline | docComment | comment | tag | string | number | attributeName
  | preprocessor | operator | delimiter | punctuation | plain =>
      exact absurd isWord (by simp [Category.Tells])
  | _ => exact shape

theorem hasShape_lineBreak (breaks : isLineBreak head = true) :
    grammar.HasShape (head :: (Step.lineBreak false head tail).cut.taken)
      (Step.lineBreak false head tail).cut.rest .newline := by
  rcases Step.lineBreak_cases false tail breaks with ⟨rfl, same⟩ | ⟨rest, rfl, -, same⟩ |
      ⟨rfl, other, same⟩
  · rw [same]
    exact Or.inl rfl
  · rw [same]
    exact Or.inr (Or.inl rfl)
  · rw [same]
    exact Or.inr (Or.inr ⟨rfl, other⟩)

/-- A comment behind two slashes takes the rest of the line. -/
theorem shape_of_slashes (slashes : Text.opensWith ['/', '/'] (head :: tail) = true) :
    ['/', '/'] <+: head :: (Cut.toLineEnd tail).taken ∧
      IsRestOfLine (head :: (Cut.toLineEnd tail).taken) (Cut.toLineEnd tail).rest := by
  rcases List.isPrefixOf_iff_prefix.mp slashes with ⟨rest, same⟩
  rcases List.cons.inj same with ⟨rfl, rfl⟩
  exact ⟨⟨(Cut.toLineEnd rest).taken, rfl⟩, (isRestOfLine_toLineEnd _).cons (by decide)⟩

/-- A comment behind a number sign takes the rest of the line as well. -/
theorem shape_of_numberSign (tail : Text) :
    ['#'] <+: '#' :: (Cut.toLineEnd tail).taken ∧
      IsRestOfLine ('#' :: (Cut.toLineEnd tail).taken) (Cut.toLineEnd tail).rest :=
  ⟨⟨(Cut.toLineEnd tail).taken, rfl⟩, (isRestOfLine_toLineEnd tail).cons (by decide)⟩

theorem hasShape_single (head : Char) : grammar.HasShape [head] behind (singleCategory head) := by
  simp only [singleCategory]
  split
  · next delimits => exact ⟨head, rfl, List.contains_iff_mem.mp delimits⟩
  split
  · next punctuates => exact ⟨head, rfl, List.contains_iff_mem.mp punctuates⟩
  · exact ⟨head, rfl⟩

theorem isTagFront_tagName (text : Text) :
    IsTagFront ('<' :: (tagName text).taken) (tagName text).rest := by
  cases text with
  | nil => exact ⟨[], [], rfl, by simp, by simp, isMaximalRun_run isTagNamePart []⟩
  | cons mark rest =>
      by_cases isMark : isTagMark mark = true
      · refine ⟨[mark], (Cut.run isTagNamePart rest).taken, ?_, by simp, by simpa using isMark, ?_⟩
        · simp [tagName, isMark, Cut.push]
        · simpa [tagName, isMark, Cut.push] using isMaximalRun_run isTagNamePart rest
      · refine ⟨[], (Cut.run isTagNamePart (mark :: rest)).taken, ?_, by simp, by simp, ?_⟩
        · simp [tagName, isMark]
        · simpa [tagName, isMark] using isMaximalRun_run isTagNamePart (mark :: rest)

/-- A comment that begins with an opener does not begin like those that end with the line. -/
theorem not_ofLine_of_opener (inText : front <+: text)
    (opener : ['/', '*'] <+: text ∨ ['<', '!', '-', '-'] <+: text) :
    ¬ (['/', '/'] <+: front ∨ ['#'] <+: front) := by
  rintro (slashes | sign)
  · have begins := slashes.trans inText
    rcases opener with ⟨rest, rfl⟩ | ⟨rest, rfl⟩ <;> simp at begins
  · have begins := sign.trans inText
    rcases opener with ⟨rest, rfl⟩ | ⟨rest, rfl⟩ <;> simp at begins

theorem mem_tagClosers_of_opens {closer : Text} (isCloser : closer ∈ tagClosers)
    (opens : Text.opensWith closer (head :: tail) = true) :
    head :: (Cut.count (closer.length - 1) tail).taken ∈ tagClosers := by
  rcases List.isPrefixOf_iff_prefix.mp opens with ⟨rest, same⟩
  cases closer with
  | nil => exact absurd isCloser (by decide)
  | cons first closer =>
      rcases List.cons.inj same with ⟨rfl, parts⟩
      have taken : (Cut.count ((first :: closer).length - 1) tail).taken = closer := by
        rw [← parts]
        exact List.take_left
      rw [taken]
      exact isCloser

/-- Where a construct with a body begins, the step takes its opener and its body. -/
theorem exists_beginsWith_next (grammar : Grammar) (inTag : Bool) (head : Char) (tail : Text)
    (hasBody : (grammar.opening inTag head tail).hasBody = true) :
    exists isOpen, grammar.BeginsWith
      (head :: (grammar.next inTag head tail).cut.taken ++ (grammar.next inTag head tail).cut.rest)
      (grammar.next inTag head tail).category
      (head :: (grammar.next inTag head tail).cut.taken) isOpen := by
  rcases exists_opens_of_hasBody hasBody with ⟨enclosure, opens⟩
  rcases exists_takes_of_opens inTag opens with ⟨body, takes⟩
  have whole := grammar.scanner.lexeme_append_rest inTag head tail
  refine ⟨body.isOpen, ?_⟩
  rw [show head :: (grammar.next inTag head tail).cut.taken ++
    (grammar.next inTag head tail).cut.rest = head :: tail from whole]
  exact takes.beginsWith opens

/-- What a step takes of the text has the shape of its category. -/
theorem hasShape_next (grammar : Grammar) (inTag : Bool) (head : Char) (tail : Text) :
    grammar.HasShape (head :: (grammar.next inTag head tail).cut.taken)
      (grammar.next inTag head tail).cut.rest (grammar.next inTag head tail).category := by
  have chooses := grammar.chooses_opening inTag head tail
  have construct := grammar.exists_beginsWith_next inTag head tail
  have inText : head :: (grammar.next inTag head tail).cut.taken <+: head :: tail :=
    ⟨_, grammar.scanner.lexeme_append_rest inTag head tail⟩
  rw [next] at construct inText ⊢
  generalize grammar.opening inTag head tail = kind at chooses construct inText ⊢
  cases chooses with
  | blank blank => exact ⟨by simp, (isMaximalRun_run isBlank tail).cons blank⟩
  | lineBreak breaks => exact hasShape_lineBreak breaks
  | slashes opens documentation =>
      cases documentation with
      | true => exact shape_of_slashes opens
      | false => exact Or.inl ((shape_of_slashes opens).imp_left Or.inl)
  | numberSign _ isSign =>
      subst isSign
      exact Or.inl ((shape_of_numberSign tail).imp_left Or.inr)
  | blockComment opens =>
      have opener := List.isPrefixOf_iff_prefix.mp opens
      exact Or.inr ⟨not_ofLine_of_opener inText (Or.inl opener), construct rfl⟩
  | markupComment _ opens =>
      have opener := List.isPrefixOf_iff_prefix.mp opens
      exact Or.inr ⟨not_ofLine_of_opener inText (Or.inr opener), construct rfl⟩
  | tagStart _ isAngle _ =>
      subst isAngle
      exact Or.inr (isTagFront_tagName tail)
  | tagEnd found =>
      rcases tagCloser?_cases found with ⟨isCloser, opens⟩
      exact Or.inl (mem_tagClosers_of_opens isCloser opens)
  | string _ => exact construct rfl
  | number isNumber =>
      change IsLongestMatch _
        (head :: (Numeral.cut grammar.features.octalNumbers head tail).whole) _
      rw [Numeral.whole_cut]
      exact Numeral.isLongestMatch_cut grammar.features.octalNumbers isNumber
  | attributeName _ isSign =>
      subst isSign
      exact ⟨_, rfl, isMaximalRun_run isWordPart tail⟩
  | directive _ isSign =>
      subst isSign
      exact ⟨_, rfl, isMaximalRun_run isWordPart tail⟩
  | word starts =>
      have isWord : IsWholeWord (head :: (Cut.run isWordPart tail).taken)
          (Cut.run isWordPart tail).rest := ⟨head, _, rfl, starts, isMaximalRun_run isWordPart tail⟩
      cases inTag with
      | true => exact isWord
      | false => exact hasShape_of_word (tells_wordCategory grammar _ _) isWord
  | operator isOperator _ _ =>
      exact ⟨by simp, (isMaximalRun_run grammar.isOperator tail).cons isOperator⟩
  | single => exact hasShape_single head

/-! ## Tokens -/

/-- Behind a maximal run no other run of its class begins. -/
theorem not_runs_of_neighbors {inClass : Char -> Bool} {first second : Token}
    (adjacent : second.start = first.stop)
    (isRun : IsMaximalRun inClass (first.text text) (text.after first.stop))
    (cutsOff : grammar.scanner.CutsOff text inTag head tail second) :
    ¬ forall character, character ∈ second.text text -> inClass character = true := by
  intro inside
  have follows : (text.after first.stop).head? = some head := by
    rw [← adjacent, cutsOff.rest_eq]
    rfl
  have isIn : inClass head = true := inside head (by rw [cutsOff.text_eq]; simp)
  rw [isRun.stops head follows] at isIn
  exact Bool.false_ne_true isIn

/--
In a text that does not begin inside a construct, every token has the shape of
its category: what the category's tokens look like, and why nothing of what
follows belongs to it.  So blanks are not followed by blanks as a token of their
own, nor operators by operators.
-/
theorem tokens_have_shapes (grammar : Grammar) (text : Text) :
    (forall token, token ∈ (grammar.scan .normal text).tokens 0 ->
      grammar.HasShape (token.text text) (text.after token.stop) token.category) ∧
      (forall first second, [first, second] <:+: (grammar.scan .normal text).tokens 0 ->
        first.category = second.category ->
          first.category ≠ .whitespace ∧ first.category ≠ .operator) := by
  have steps : forall token, token ∈ (grammar.scan .normal text).tokens 0 ->
      exists inTag head tail, grammar.scanner.CutsOff text inTag head tail token :=
    fun _ => Scanner.exists_step_of_mem []
  have shapes : forall token, token ∈ (grammar.scan .normal text).tokens 0 ->
      grammar.HasShape (token.text text) (text.after token.stop) token.category := by
    intro token member
    rcases steps token member with ⟨inTag, head, tail, cutsOff⟩
    rw [cutsOff.text_eq, cutsOff.behind_eq, cutsOff.category_eq]
    exact grammar.hasShape_next inTag head tail
  refine ⟨shapes, fun first second neighbors same => ?_⟩
  have adjacent := ((grammar.covers_scan .normal text).tiles 0).start_eq_stop neighbors
  have isFirst := shapes first (neighbors.subset (by simp))
  have isSecond := shapes second (neighbors.subset (by simp))
  rcases steps second (neighbors.subset (by simp)) with ⟨inTag, head, tail, cutsOff⟩
  rw [← same] at isSecond
  constructor
  · intro isBlank
    rw [isBlank] at isFirst isSecond
    exact not_runs_of_neighbors adjacent isFirst.2 cutsOff isSecond.2.inside
  · intro isOperator
    rw [isOperator] at isFirst isSecond
    exact not_runs_of_neighbors adjacent isFirst.2 cutsOff isSecond.2.inside

/--
A letter that is an operator character, too, belongs to the operator that it
stands in.  The brackets behind it are two tokens of one category.
-/
theorem tokens_have_shapes_of_letter :
    let grammar : Grammar := { operators := ['=', 'é'] }
    let text : Text := ['=', 'é', '(', '(']
    (grammar.scan .normal text).tokens 0 =
        [⟨.operator, 0, 3⟩, ⟨.delimiter, 3, 4⟩, ⟨.delimiter, 4, 5⟩] ∧
      IsMaximalRun grammar.isOperator ['=', 'é'] ['(', '('] ∧
      [⟨.delimiter, 3, 4⟩, ⟨.delimiter, 4, 5⟩] <:+: (grammar.scan .normal text).tokens 0 ∧
      Category.delimiter ≠ .whitespace := by
  intro grammar text
  have tokens : (grammar.scan .normal text).tokens 0 =
      [⟨.operator, 0, 3⟩, ⟨.delimiter, 3, 4⟩, ⟨.delimiter, 4, 5⟩] := by decide +kernel
  have neighbors : [⟨.delimiter, 3, 4⟩, ⟨.delimiter, 4, 5⟩] <:+:
      (grammar.scan .normal text).tokens 0 := by
    rw [tokens]
    decide
  rcases tokens_have_shapes grammar text with ⟨shapes, apart⟩
  refine ⟨tokens, ?_, neighbors, (apart _ _ neighbors rfl).1⟩
  exact (shapes ⟨.operator, 0, 3⟩ (by rw [tokens]; simp)).2

end Grammar
end Lexis
