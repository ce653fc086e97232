import Lexis.Proofs.Grammar.Kinds
import Lexis.Proofs.Grammar.Numeral
import Lexis.Proofs.Grammar.Steps
import Lexis.Proofs.Text.MaximalRun

namespace Lexis

/-!
Directives among comments.

Where a number sign begins comments, directives are told from them by the
characters that the text goes on with, whether or not the word ends there.  So
`#iffy` is a directive, as `#if` is (`Grammar.directives_by_beginning`).
-/

namespace Grammar

variable {grammar : Grammar} {inTag : Bool} {tail text word behind : Text} {state : State}
  {token : Token}

/-- A directive stands at the place just if the word behind the number sign begins like one. -/
theorem atDirective_iff (preprocessor : grammar.features.preprocessor = true)
    (isWord : IsMaximalRun isWordPart word behind) :
    grammar.atDirective ('#' :: (word ++ behind)) = true <->
      exists directive, directive ∈ directives ∧ directive <+: '#' :: word := by
  have letters : forall directive, directive ∈ directives -> exists name, directive = '#' :: name ∧
      forall character, character ∈ name -> isWordPart character = true := by
    intro directive member
    have signed : forall directive, directive ∈ directives ->
        directive = '#' :: directive.tail ∧ directive.tail.all isWordPart = true := by
      decide +kernel
    rcases signed directive member with ⟨sign, inside⟩
    exact ⟨directive.tail, sign, List.all_eq_true.mp inside⟩
  rw [atDirective, preprocessor, Bool.true_and, List.any_eq_true]
  refine exists_congr fun directive => and_congr_right fun member => ?_
  rcases letters directive member with ⟨name, rfl, inside⟩
  rw [Text.opensWith, List.isPrefixOf_iff_prefix, List.cons_prefix_cons, List.cons_prefix_cons,
    isWord.isPrefix_iff inside]

theorem opening_of_numberSign (hash : grammar.features.hashComments = true)
    (preprocessor : grammar.features.preprocessor = true) (inTag : Bool) (tail : Text) :
    grammar.opening inTag '#' tail =
      if grammar.atDirective ('#' :: tail) then .directive else .lineComment false := by
  have noCloser : grammar.tagCloser? inTag ('#' :: tail) = none := by
    simp [tagCloser?, tagClosers, Text.opensWith]
  have notBlank : isBlank '#' = false := by decide +kernel
  have notBreak : isLineBreak '#' = false := by decide
  have noQuote : grammar.features.isQuote '#' = false := by simp [Features.isQuote]
  have noDigit : isDigit '#' = false := by decide +kernel
  cases found : grammar.atDirective ('#' :: tail) with
  | true =>
      simp [opening, found, notBlank, notBreak, noCloser, noQuote, noDigit, hash, preprocessor,
        Text.opensWith]
  | false =>
      simp [opening, found, notBlank, notBreak, hash, Text.opensWith]

/--
Where a number sign begins comments and directives, a token that it begins, unless
it is what is left of a construct of an earlier text, is decided upon by the word
behind the sign.  If a directive is a beginning of the sign and the word, the token
is a directive and consists of them both.  Otherwise it is a comment, which goes on
to the end of the line.
-/
theorem directives_by_beginning (hash : grammar.features.hashComments = true)
    (preprocessor : grammar.features.preprocessor = true)
    (member : token ∈ (grammar.scan state text).tokens 0)
    (outside : state = .normal ∨ 0 < token.start)
    (sign : text.after token.start = '#' :: (word ++ behind))
    (isWord : IsMaximalRun isWordPart word behind) :
    ((exists directive, directive ∈ directives ∧ directive <+: '#' :: word) ->
        token.category = .preprocessor ∧ token.text text = '#' :: word) ∧
      ((forall directive, directive ∈ directives -> ¬ directive <+: '#' :: word) ->
        token.category = .comment ∧ IsRestOfLine (token.text text) (text.after token.stop)) := by
  rcases exists_step_of_mem_scan member with carried | ⟨inTag, head, tail, cutsOff, -⟩
  · rcases outside with normal | inside
    · exact absurd normal carried.inside
    · exact absurd carried.start_eq (Nat.ne_of_gt inside)
  obtain ⟨rfl, rfl⟩ := List.cons.inj (cutsOff.rest_eq.symm.trans sign)
  have step : grammar.scanner.next inTag '#' (word ++ behind) =
      grammar.stepOf inTag '#' (word ++ behind)
        (if grammar.atDirective ('#' :: (word ++ behind)) then .directive
          else .lineComment false) :=
    congrArg (grammar.stepOf inTag '#' _) (opening_of_numberSign hash preprocessor inTag _)
  rw [cutsOff.category_eq, cutsOff.text_eq, cutsOff.behind_eq, step]
  constructor
  · intro begins
    rw [if_pos ((atDirective_iff preprocessor isWord).mpr begins)]
    simp only [stepOf, within, isWord.run_eq, and_self]
  · intro others
    have noDirective : ¬ grammar.atDirective ('#' :: (word ++ behind)) = true := by
      intro found
      rcases (atDirective_iff preprocessor isWord).mp found with ⟨directive, isDirective, begins⟩
      exact others directive isDirective begins
    rw [if_neg noDirective]
    exact ⟨rfl, (isRestOfLine_toLineEnd _).cons rfl⟩

/-- A grammar in which a number sign begins both comments and directives. -/
def signed : Grammar :=
  { features := { hashComments := true, preprocessor := true } }

/--
Behind the rest of a comment stands a directive, and on the next line a comment,
though its word is the beginning of a directive.
-/
theorem directives_by_beginning_of_open_comment :
    let text : Text := ['*', '/', '#', 'i', 'f', '\n', '#', 'e', 'l', ' ', 'i']
    let tokens := (signed.scan .blockComment text).tokens 0
    tokens = [⟨.comment, 0, 2⟩, ⟨.preprocessor, 2, 5⟩, ⟨.newline, 5, 6⟩, ⟨.comment, 6, 11⟩] ∧
      Token.text ⟨.preprocessor, 2, 5⟩ text = ['#', 'i', 'f'] ∧
      IsRestOfLine (Token.text ⟨.comment, 6, 11⟩ text) (text.after 11) := by
  intro text tokens
  have scanned : tokens =
      [⟨.comment, 0, 2⟩, ⟨.preprocessor, 2, 5⟩, ⟨.newline, 5, 6⟩, ⟨.comment, 6, 11⟩] := by
    decide +kernel
  have directive : ⟨.preprocessor, 2, 5⟩ ∈ tokens := by rw [scanned]; decide
  have comment : ⟨.comment, 6, 11⟩ ∈ tokens := by rw [scanned]; decide
  have firstWord : IsMaximalRun isWordPart ['i', 'f'] ['\n', '#', 'e', 'l', ' ', 'i'] :=
    isMaximalRun_iff.mpr (by decide +kernel)
  have secondWord : IsMaximalRun isWordPart ['e', 'l'] [' ', 'i'] :=
    isMaximalRun_iff.mpr (by decide +kernel)
  refine ⟨scanned, ?_, ?_⟩
  · exact ((directives_by_beginning rfl rfl directive (by decide) rfl firstWord).1
      ⟨_, by decide, List.prefix_rfl⟩).2
  · exact ((directives_by_beginning rfl rfl comment (by decide) rfl secondWord).2 (by decide)).2

/-- The whole word is no directive, and yet the token is one. -/
theorem directive_of_longer_word :
    (signed.scan .normal ['#', 'i', 'f', 'f', 'y']).tokens 0 = [⟨.preprocessor, 0, 5⟩] ∧
      IsMaximalRun isWordPart ['i', 'f', 'f', 'y'] [] ∧
      ['#', 'i', 'f', 'f', 'y'] ∉ directives :=
  ⟨by decide +kernel, isMaximalRun_iff.mpr (by decide +kernel), by decide⟩

end Grammar
end Lexis
