import Lexis.Grammar.Declarative
import Lexis.Proofs.Grammar.Kinds
import Lexis.Proofs.Grammar.LineLocal
import Lexis.Proofs.Grammar.Numeral
import Lexis.Proofs.Grammar.Steps
import Lexis.Proofs.Scanner.Since
import Lexis.Proofs.Text.Classes

namespace Lexis

/-!
Attributes in tags.

A word is an attribute inside a tag, which goes on from its opener to a closer or
to the end of the line, also if the line ends within a string or comment.
Whether a word stands inside a tag is told by the tokens in front of it alone
(`Grammar.attributes_inside_tags`).
-/

namespace Token

/-- The token is an angle bracket and the name of a tag. -/
def OpensTag (text : Text) (token : Token) : Prop :=
  token.category = .tag ∧ ['<'] <+: token.text text

/-- The token ends the line, or a line ends in it, or it closes a tag. -/
def LeavesTag (text : Text) (token : Token) : Prop :=
  token.category = .newline ∨ '\n' ∈ token.text text ∨
    token.category = .tag ∧ ¬ ['<'] <+: token.text text

/-- Behind these tokens the text stands inside a tag, which none of them since its opener leaves. -/
def InsideTag (text : Text) (earlier : List Token) : Prop :=
  Since false (OpensTag text) (fun token => ¬ token.LeavesTag text) earlier

end Token

namespace Grammar

variable {grammar : Grammar} {inTag : Bool} {head : Char} {tail text : Text} {state : State}
  {token : Token}

/-! ## Words -/

/-- A character that begins words announces nothing else. -/
theorem opening_of_isWordStart (grammar : Grammar) (inTag : Bool) (tail : Text)
    (starts : isWordStart head = true) : grammar.opening inTag head tail = .word := by
  have others : forall character,
      character ∈ '\n' :: '\r' :: '"' :: '\'' :: '`' :: '.' :: '@' ::
        (earlyMarks ++ Numeral.decimalDigits) -> isWordStart character = false :=
    Numeral.forall_mem_of_all (by decide +kernel)
  have notIn : head ∉ '\n' :: '\r' :: '"' :: '\'' :: '`' :: '.' :: '@' ::
      (earlyMarks ++ Numeral.decimalDigits) := by
    intro member
    exact absurd (starts.symm.trans (others head member)) (by simp)
  simp only [List.mem_cons, List.mem_append, not_or] at notIn
  rcases notIn with ⟨notFeed, notReturn, notDouble, notSingle, notBacktick, notPoint, notAt,
    unmarked, notDigit⟩
  have notBreak : isLineBreak head = false := by simp [isLineBreak, notFeed, notReturn]
  have noQuote : grammar.features.isQuote head = false := by
    simp [Features.isQuote, notDouble, notSingle, notBacktick]
  have noDigit : isDigit head = false := Bool.eq_false_iff.mpr (mt Numeral.isDigit_iff.mp notDigit)
  rw [opening_of_unmarked (not_isBlank_of_isWordStart starts) notBreak unmarked]
  simp only [noQuote, noDigit, beq_false_of_ne notPoint, beq_false_of_ne notAt, starts,
    Bool.false_and, Bool.and_false, Bool.or_false, Bool.false_eq_true, if_false, if_true]

theorem wordCategory_ne_tagAttribute (grammar : Grammar) (word rest : Text) :
    grammar.wordCategory word rest ≠ .tagAttribute := by
  simp only [wordCategory, Keywords.classify]
  cases grammar.keywords.role? word.toWord with
  | some role => cases role <;> exact Category.noConfusion
  | none =>
      simp only [Option.map_none]
      split
      · exact Category.noConfusion
      · split <;> exact Category.noConfusion

theorem category_eq_tagAttribute_iff :
    (grammar.next inTag head tail).category = .tagAttribute <->
      isWordStart head = true ∧ inTag = true := by
  constructor
  · intro isAttribute
    have tells := grammar.tells_next inTag head tail
    rw [isAttribute] at tells
    have kind : grammar.opening inTag head tail = .word := tells
    have chooses := grammar.chooses_opening inTag head tail
    rw [kind] at chooses
    rw [next, kind] at isAttribute
    cases chooses with
    | word starts =>
        cases inTag with
        | true => exact ⟨starts, rfl⟩
        | false => exact absurd isAttribute (wordCategory_ne_tagAttribute grammar _ _)
  · rintro ⟨starts, rfl⟩
    rw [next, opening_of_isWordStart grammar true tail starts]
    rfl

/-! ## The mode behind a step -/

/-- A lexeme that is neither a line break nor a tag leaves a tag just if it reports a line end. -/
theorem mode_stepOf {kind : Opening} (notBreak : kind ≠ .lineBreak) (notStart : kind ≠ .tagStart)
    (notEnd : forall closer, kind ≠ .tagEnd closer) :
    (grammar.stepOf inTag head tail kind).mode =
      (inTag && (grammar.stepOf inTag head tail kind).lineStates.isEmpty) := by
  cases kind with
  | lineBreak => exact absurd rfl notBreak
  | tagStart => exact absurd rfl notStart
  | tagEnd closer => exact absurd rfl (notEnd closer)
  | blockComment | markupComment | string _ _ =>
      simp only [stepOf, commentStep, stringStep, withBody, Step.ofBody, Body.lineStates,
        List.isEmpty_replicate]
      rfl
  | _ => simp [stepOf, within, wordStep]

/-- What closes a tag does not begin like an opener. -/
theorem not_angle_of_tagCloser {closer : Text} (isCloser : closer ∈ tagClosers)
    (opens : Text.opensWith closer (head :: tail) = true) : head ≠ '<' := by
  rintro rfl
  have others : forall closer, closer ∈ tagClosers -> closer ≠ [] ∧ closer.head? ≠ some '<' := by
    decide
  rcases others closer isCloser with ⟨present, other⟩
  cases closer with
  | nil => exact present rfl
  | cons first closer =>
      have prefixes := List.cons_prefix_cons.mp (List.isPrefixOf_iff_prefix.mp opens)
      exact other (congrArg some prefixes.1)

/-- The mark of being inside a tag, by what the step takes. -/
theorem mode_next_iff (noFeed : '\n' ∉ grammar.operators) (inTag : Bool) (head : Char)
    (tail : Text) :
    let step := grammar.next inTag head tail
    step.mode = true <->
      step.category = .tag ∧ head = '<' ∨
        ¬ (step.category = .newline ∨ '\n' ∈ head :: step.cut.taken ∨
          step.category = .tag ∧ head ≠ '<') ∧ inTag = true := by
  intro step
  have tells := grammar.tells_next inTag head tail
  have chooses := grammar.chooses_opening inTag head tail
  have feeds : step.lineStates.length = Text.lineFeeds (head :: step.cut.taken) :=
    (lineStep noFeed inTag head tail).lineFeeds
  by_cases isBreak : grammar.opening inTag head tail = .lineBreak
  · have isStep : step = Step.lineBreak false head tail := by
      simp only [step, next, isBreak, stepOf]
    rw [isStep]
    simp [Step.lineBreak]
  by_cases isStart : grammar.opening inTag head tail = .tagStart
  · have isStep : step = within .tag true (tagName tail) := by
      simp only [step, next, isStart, stepOf]
    rw [isStart] at chooses
    rw [isStep]
    cases chooses with
    | tagStart _ isAngle _ => exact iff_of_true rfl (Or.inl ⟨rfl, isAngle⟩)
  by_cases isEnd : exists closer, grammar.opening inTag head tail = .tagEnd closer
  · rcases isEnd with ⟨closer, isEnd⟩
    have isStep : step = within .tag false (Cut.count (closer.length - 1) tail) := by
      simp only [step, next, isEnd, stepOf]
    rw [isEnd] at chooses
    rw [isStep]
    cases chooses with
    | tagEnd found =>
        rcases tagCloser?_cases found with ⟨isCloser, opens⟩
        simp [within, not_angle_of_tagCloser isCloser opens]
  · rw [not_exists] at isEnd
    have notNewline : step.category ≠ .newline := by
      intro same
      rw [same] at tells
      exact isBreak tells
    have notTag : step.category ≠ .tag := by
      intro same
      rw [same] at tells
      rcases tells with start | ⟨closer, closes⟩
      · exact isStart start
      · exact isEnd closer closes
    have noStates : step.lineStates = [] <-> '\n' ∉ head :: step.cut.taken := by
      rw [← List.length_eq_zero_iff, feeds]
      exact List.count_eq_zero
    have mode : step.mode = (inTag && step.lineStates.isEmpty) := mode_stepOf isBreak isStart isEnd
    rw [mode, Bool.and_eq_true, List.isEmpty_iff, noStates]
    simp [notNewline, notTag, and_comm]

/-- The mode tells whether the tokens so far lead inside a tag. -/
theorem keepsTrack_insideTag (noFeed : '\n' ∉ grammar.operators) (text : Text) :
    grammar.scanner.KeepsTrack text fun earlier inTag =>
      inTag = true <-> Token.InsideTag text earlier := by
  apply Scanner.keepsTrack_since false
  intro inTag head tail token cutsOff
  have angle : ['<'] <+: head :: (grammar.next inTag head tail).cut.taken <-> head = '<' := by
    simp [List.cons_prefix_cons, eq_comm]
  rw [Token.OpensTag, Token.LeavesTag, cutsOff.category_eq, cutsOff.text_eq]
  change _ <-> _ ∧ ['<'] <+: head :: (grammar.next inTag head tail).cut.taken ∨
    ¬ (_ ∨ _ ∨ _ ∧ ¬ ['<'] <+: head :: (grammar.next inTag head tail).cut.taken) ∧ _
  rw [angle]
  exact mode_next_iff noFeed inTag head tail

/-! ## Tokens -/

/-- A word is an attribute where the tokens so far lead inside a tag. -/
theorem category_eq_tagAttribute_of_split (noFeed : '\n' ∉ grammar.operators)
    {earlier later : List Token}
    (split : (grammar.scan state text).tokens 0 = earlier ++ token :: later) :
    token.category = .tagAttribute <->
      (state = .normal ∨ 0 < token.start) ∧ (token.text text).head?.any isWordStart = true ∧
        Token.InsideTag text earlier := by
  have entry : false = true <-> Token.InsideTag text [] := since_nil.symm
  have carried : forall token : Token, token.category = .string ∨ token.category = .comment ->
      (false = true <-> Token.InsideTag text [token]) := by
    intro token category
    refine iff_of_false Bool.false_ne_true fun inside => ?_
    rw [Token.InsideTag, ← List.nil_append [token], since_append, since_nil] at inside
    rcases inside with ⟨isTag, -⟩ | ⟨-, isSet⟩
    · exact absurd isTag (by rcases category with same | same <;> simp [same])
    · exact Bool.false_ne_true isSet
  rcases exists_step_of_split_scan (keepsTrack_insideTag noFeed text) entry carried split with
    isCarried | ⟨inTag, head, tail, known, cutsOff, place⟩
  · refine iff_of_false ?_ ?_
    · rcases isCarried.category_cases with same | same <;> simp [same]
    · rintro ⟨normal | behind, -⟩
      · exact isCarried.inside normal
      · exact Nat.ne_of_gt behind isCarried.start_eq
  · rw [cutsOff.category_eq, cutsOff.text_eq, ← known]
    refine category_eq_tagAttribute_iff.trans ⟨fun ⟨starts, inside⟩ => ⟨?_, starts, inside⟩,
      fun ⟨_, starts, inside⟩ => ⟨starts, inside⟩⟩
    rcases place with normal | behind | breaks
    · exact Or.inl normal
    · exact Or.inr behind
    · have kind := opening_of_isLineBreak grammar inTag tail breaks
      exact absurd (kind.symm.trans (opening_of_isWordStart grammar inTag tail starts)) (by simp)

/-- There are brackets of tags only in languages that have tags. -/
theorem tags_of_mem (member : token ∈ (grammar.scan state text).tokens 0)
    (isTag : token.category = .tag) : grammar.features.tags = true := by
  rcases exists_step_of_mem_scan member with isCarried | ⟨inTag, head, tail, cutsOff, -⟩
  · rcases isCarried.category_cases with same | same <;> exact absurd (isTag.symm.trans same) (by simp)
  · have tells : Category.Tells (grammar.opening inTag head tail) token.category := by
      rw [cutsOff.category_eq]
      exact grammar.tells_next inTag head tail
    have announces := grammar.announces_opening inTag head tail
    rw [isTag] at tells
    rcases tells with kind | ⟨closer, kind⟩
    · rw [kind] at announces
      exact announces
    · rw [kind] at announces
      exact announces

/--
A token that begins with a letter or an underscore is an attribute if an angle
bracket with a name has come before it, and since then neither a line has ended,
be it within a comment or string, nor has a tag been closed.  No other token is an
attribute: what is left of the construct that a text begins in may begin with a
letter, but it is not a word.  Languages without tags have no attributes in tags.
-/
theorem attributes_inside_tags (noFeed : '\n' ∉ grammar.operators) (state : State)
    (text : Text) :
    (forall earlier token later,
      (grammar.scan state text).tokens 0 = earlier ++ token :: later ->
        (token.category = .tagAttribute <->
          (state = .normal ∨ 0 < token.start) ∧ (token.text text).head?.any isWordStart = true ∧
            Token.InsideTag text earlier)) ∧
      (grammar.features.tags = false -> forall token,
        token ∈ (grammar.scan state text).tokens 0 ->
          token.category ≠ .tag ∧ token.category ≠ .tagAttribute) := by
  refine ⟨fun earlier token later => category_eq_tagAttribute_of_split noFeed,
    fun noTags token member => ?_⟩
  have noTag : forall token, token ∈ (grammar.scan state text).tokens 0 -> token.category ≠ .tag :=
    fun token member isTag => Bool.false_ne_true (noTags.symm.trans (tags_of_mem member isTag))
  refine ⟨noTag token member, fun isAttribute => ?_⟩
  rcases List.append_of_mem member with ⟨earlier, later, split⟩
  rcases (category_eq_tagAttribute_of_split noFeed split).mp isAttribute with ⟨-, -, inside⟩
  rcases inside with ⟨front, behind, parts, -, ⟨start, -⟩ | ⟨before, opener, rfl, opens⟩⟩
  · exact Bool.false_ne_true start
  · exact noTag opener (by rw [split, parts]; simp) opens.1

/-- The comment contains a line end, so that the second word is no longer inside the tag. -/
theorem attributes_inside_tags_of_comment :
    let text : Text := ['<', 'a', ' ', 'b', '<', '!', '-', '-', '\n', '-', '-', '>', 'c']
    let front : List Token := [⟨.tag, 0, 2⟩, ⟨.whitespace, 2, 3⟩]
    let behind : List Token := [⟨.comment, 4, 12⟩]
    (Grammar.markup.scan .normal text).tokens 0 =
        front ++ ⟨.tagAttribute, 3, 4⟩ :: (behind ++ [⟨.variableName, 12, 13⟩]) ∧
      '\n' ∉ Grammar.markup.operators ∧ Token.InsideTag text front ∧
      ¬ Token.InsideTag text (front ++ ⟨.tagAttribute, 3, 4⟩ :: behind) ∧
      Grammar.json.features.tags = false ∧
      (forall token, token ∈ (Grammar.json.scan .normal text).tokens 0 ->
        token.category ≠ .tag ∧ token.category ≠ .tagAttribute) := by
  intro text front behind
  have tokens : (Grammar.markup.scan .normal text).tokens 0 =
      front ++ ⟨.tagAttribute, 3, 4⟩ :: (behind ++ [⟨.variableName, 12, 13⟩]) := by decide +kernel
  have noFeed : '\n' ∉ Grammar.markup.operators := by decide
  have noTags : Grammar.json.features.tags = false := rfl
  have attributes := (attributes_inside_tags noFeed .normal text).1
  refine ⟨tokens, noFeed, ?_, ?_, noTags,
    (attributes_inside_tags (by decide) .normal text).2 noTags⟩
  · exact ((attributes _ _ _ tokens).mp rfl).2.2
  · intro inside
    have split : (Grammar.markup.scan .normal text).tokens 0 =
        (front ++ ⟨.tagAttribute, 3, 4⟩ :: behind) ++ [⟨.variableName, 12, 13⟩] := tokens
    have startsWord : (Token.text ⟨.variableName, 12, 13⟩ text).head?.any isWordStart = true := by
      decide +kernel
    have isAttribute := (attributes _ _ _ split).mpr ⟨Or.inl rfl, startsWord, inside⟩
    exact absurd isAttribute (by simp)

end Grammar
end Lexis
