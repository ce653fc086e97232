import Lexis.Language.Grammar
import Lexis.Proofs.Grammar.Kinds
import Lexis.Proofs.Grammar.Steps
import Lexis.Proofs.Scanner.Lexemes

namespace Lexis

/-!
Operators and comments.

Comments come before operators where a lexeme begins, so no operator begins with
the opener of a comment.  But an operator is the longest run of operator
characters, whatever they are: if the slash is one of them, then an opener
behind another operator character is taken along (`Language.operators_munch`).
-/

/-- The opener of a comment stands somewhere in the text. -/
def Text.HoldsCommentOpener (text : Text) : Prop :=
  exists front mark back, text = front ++ '/' :: mark :: back ∧ (mark = '/' ∨ mark = '*')

namespace Grammar

variable {grammar : Grammar} {inTag : Bool} {head : Char} {tail : Text}

/-! ## The category of operators -/

/-- Only runs of operator characters are operators; the words of that role have a category apart. -/
theorem opening_eq_operator (isOperator : (grammar.next inTag head tail).category = .operator) :
    grammar.opening inTag head tail = .operator := by
  have tells := grammar.tells_next inTag head tail
  rw [isOperator] at tells
  exact tells

/-- What the text of an operator is like. -/
structure IsOperatorRun (grammar : Grammar) (text : Text) : Prop where
  operators : forall character, character ∈ text -> grammar.isOperator character = true
  noSlashes : ¬ Text.opensWith ['/', '/'] text = true
  noStar : ¬ Text.opensWith ['/', '*'] text = true

theorem isOperatorRun_next (isOperator : (grammar.next inTag head tail).category = .operator) :
    grammar.IsOperatorRun ((grammar.next inTag head tail).lexeme head).text := by
  have kind := opening_eq_operator isOperator
  have announces := grammar.announces_opening inTag head tail
  rw [kind] at announces
  rcases announces with ⟨isFirst, noSlashes, noStar⟩
  have run : ((grammar.next inTag head tail).lexeme head).text =
      head :: tail.takeWhile grammar.isOperator := by
    rw [next, kind]
    rfl
  have inText : head :: tail.takeWhile grammar.isOperator <+: head :: tail :=
    List.cons_prefix_cons.mpr ⟨rfl, List.takeWhile_prefix _⟩
  have opens : forall opener,
      Text.opensWith opener (head :: tail.takeWhile grammar.isOperator) = true ->
        Text.opensWith opener (head :: tail) = true := by
    intro opener inRun
    exact List.isPrefixOf_iff_prefix.mpr ((List.isPrefixOf_iff_prefix.mp inRun).trans inText)
  rw [run]
  constructor
  · intro character member
    rcases List.mem_cons.mp member with rfl | behind
    · exact isFirst
    · exact List.all_eq_true.mp List.all_takeWhile character behind
  · exact fun slashes => noSlashes (opens _ slashes)
  · exact fun starred => noStar (opens _ starred)

/-- An operator leaves no operator character behind it. -/
theorem not_isOperator_of_rest {character : Char}
    (isOperator : (grammar.next inTag head tail).category = .operator)
    (follows : (grammar.next inTag head tail).cut.rest.head? = some character) :
    grammar.isOperator character = false := by
  have stops := List.head?_dropWhile_not grammar.isOperator tail
  have rest : (grammar.next inTag head tail).cut.rest = tail.dropWhile grammar.isOperator := by
    rw [next, opening_eq_operator isOperator]
    rfl
  rw [← rest, follows] at stops
  exact stops

/-- The lexeme is a run of operator characters if it is an operator. -/
def RunsIfOperator (grammar : Grammar) (lexeme : Lexeme) : Prop :=
  lexeme.category = .operator -> grammar.IsOperatorRun lexeme.text

/-- In whatever state the text begins, its operators are runs without an opener in front. -/
theorem runsIfOperator_of_mem_scan (state : State) (text : Text) :
    forall lexeme, lexeme ∈ (grammar.scan state text).lexemes -> grammar.RunsIfOperator lexeme := by
  have steps : forall inTag head tail,
      grammar.RunsIfOperator ((grammar.next inTag head tail).lexeme head) :=
    fun inTag head tail isOperator => isOperatorRun_next isOperator
  cases state with
  | normal =>
      exact Scanner.forall_lexemes_run _ .normal false
        fun inTag head tail _ => steps inTag head tail
  | inString quote multiline =>
      exact Scanner.forall_lexemes_resume _ steps
        (fun isOperator => Category.noConfusion isOperator) false
  | inComment multiline markup =>
      exact Scanner.forall_lexemes_resume _ steps
        (fun isOperator => Category.noConfusion isOperator) false

/-- The second lexeme is no part of an operator that is the first. -/
def EndsOperator (grammar : Grammar) (first second : Lexeme) : Prop :=
  first.category = .operator -> forall character, second.text.head? = some character ->
    grammar.isOperator character = false

/-- Directly behind an operator, no operator character follows. -/
theorem endsOperator_of_neighbors {text : Text} {first second : Lexeme}
    (neighbors : [first, second] <:+: (grammar.scan .normal text).lexemes) :
    grammar.EndsOperator first second := by
  have steps : forall inTag head tail (second : Lexeme),
      second.text.head? = (grammar.next inTag head tail).cut.rest.head? ->
        grammar.EndsOperator ((grammar.next inTag head tail).lexeme head) second := by
    intro inTag head tail second same isOperator character follows
    exact not_isOperator_of_rest isOperator (same.symm.trans follows)
  exact Scanner.forall_neighbors_run steps .normal false text first second neighbors

/-- A run without the slash has no opener of a comment in it. -/
theorem IsOperatorRun.noOpener {text : Text} (isRun : grammar.IsOperatorRun text)
    (noSlash : '/' ∉ grammar.operators) : ¬ text.HoldsCommentOpener := by
  rintro ⟨front, mark, back, rfl, -⟩
  have isOperator := isRun.operators '/' (by simp)
  rw [Grammar.isOperator, List.contains_iff_mem] at isOperator
  exact noSlash isOperator

/-! ## Openers in a run -/

/-- A plus sign announces nothing else than an operator. -/
theorem opening_of_plus (plus : '+' ∈ grammar.operators) (tail : Text) :
    grammar.opening false '+' tail = .operator := by
  have noQuote : grammar.features.isQuote '+' = false := by simp [Features.isQuote]
  have isOperator : grammar.isOperator '+' = true := List.contains_iff_mem.mpr plus
  have others : isBlank '+' = false ∧ isLineBreak '+' = false ∧ '+' ∉ earlyMarks ∧
      isDigit '+' = false ∧ ('+' == '.') = false ∧ ('+' == '@') = false ∧
      isWordStart '+' = false := by decide +kernel
  rcases others with ⟨notBlank, notBreak, unmarked, notDigit, notPoint, notAt, notWord⟩
  rw [opening_of_unmarked notBlank notBreak unmarked]
  simp only [noQuote, notDigit, notPoint, notAt, notWord, isOperator, Bool.false_eq_true,
    Bool.and_false, Bool.false_and, Bool.false_or, if_false, if_true]

/-- Behind a plus sign the opener of a line comment is part of the operator. -/
theorem scan_of_plus (plus : '+' ∈ grammar.operators) (slash : '/' ∈ grammar.operators) :
    (grammar.scan .normal ['+', '/', '/']).tokens 0 = [⟨.operator, 0, 3⟩] := by
  have isSlash : grammar.isOperator '/' = true := List.contains_iff_mem.mpr slash
  have step : grammar.next false '+' ['/', '/'] =
      within .operator false { taken := ['/', '/'], rest := [] } := by
    rw [next, opening_of_plus plus]
    simp [stepOf, Cut.run, isSlash]
  have run : grammar.scan .normal ['+', '/', '/'] =
      { lexemes := [{ category := .operator, text := ['+', '/', '/'] }], endState := .normal } := by
    rw [scan, Scanner.run_cons]
    simp only [scanner, step, within, Scanner.run_nil]
    rfl
  rw [run]
  decide

end Grammar

namespace Language

/-- Every language whose operators may have a slash in them has the plus sign, too. -/
theorem plus_mem_operators (language : Language) {grammar : Grammar}
    (builtIn : language.grammar? = some grammar) (slash : '/' ∈ grammar.operators) :
    '+' ∈ grammar.operators := by
  cases language <;> rcases builtIn with ⟨⟩ <;> revert slash <;> decide

/--
Operators of the built-in languages: each is made of operator characters and does
not begin with the opener of a comment, so an opener is always one where a lexeme
begins.  That no operator has an opener in it at all is true of just those
languages of which the slash is no operator character.
-/
theorem operators_munch (language : Language) {grammar : Grammar}
    (builtIn : language.grammar? = some grammar) :
    (forall text token, token ∈ (grammar.scan .normal text).tokens 0 ->
      token.category = .operator ->
        (forall character, character ∈ token.text text -> character ∈ grammar.operators) ∧
          ¬ Text.opensWith ['/', '/'] (token.text text) = true ∧
          ¬ Text.opensWith ['/', '*'] (token.text text) = true) ∧
      (forall text first second, [first, second] <:+: (grammar.scan .normal text).tokens 0 ->
        first.category = .operator -> forall character,
          (second.text text).head? = some character -> character ∉ grammar.operators) ∧
      ((forall text token, token ∈ (grammar.scan .normal text).tokens 0 ->
        token.category = .operator -> ¬ (token.text text).HoldsCommentOpener) ↔
          '/' ∉ grammar.operators) := by
  have isRun : forall text token, token ∈ (grammar.scan .normal text).tokens 0 ->
      token.category = .operator -> grammar.IsOperatorRun (token.text text) := by
    intro text token member isOperator
    rcases (grammar.covers_scan .normal text).exists_lexeme member with
      ⟨lexeme, inScan, category, spelled⟩
    rw [← spelled]
    exact grammar.runsIfOperator_of_mem_scan .normal text lexeme inScan (category.trans isOperator)
  refine ⟨?_, ?_, ?_⟩
  · intro text token member isOperator
    rcases isRun text token member isOperator with ⟨operators, noSlashes, noStar⟩
    refine ⟨fun character inText => ?_, noSlashes, noStar⟩
    exact List.contains_iff_mem.mp (operators character inText)
  · intro text first second neighbors isOperator character follows isIn
    rcases (grammar.covers_scan .normal text).exists_neighbors neighbors with
      ⟨earlier, later, inScan, earlierSame, laterSame⟩
    have category : earlier.category = .operator :=
      (congrArg Prod.fst earlierSame).trans isOperator
    have spelled : later.text = second.text text := congrArg Prod.snd laterSame
    have notOperator := Grammar.endsOperator_of_neighbors inScan category character
      (spelled ▸ follows)
    rw [Grammar.isOperator, List.contains_iff_mem.mpr isIn] at notOperator
    exact absurd notOperator (by simp)
  · constructor
    · intro free slash
      have munched := grammar.scan_of_plus (plus_mem_operators language builtIn slash) slash
      have noOpener := free ['+', '/', '/'] ⟨.operator, 0, 3⟩ (by rw [munched]; simp) rfl
      exact noOpener ⟨['+'], '/', [], by decide, Or.inl rfl⟩
    · intro noSlash text token member isOperator
      exact (isRun text token member isOperator).noOpener noSlash

/-- A comment directly behind an equals sign is read as an operator and two words around a star. -/
theorem operators_munch_comment :
    ¬ forall (language : Language) (grammar : Grammar), language.grammar? = some grammar ->
      forall text token, token ∈ (grammar.scan .normal text).tokens 0 ->
        token.category = .operator -> ¬ (token.text text).HoldsCommentOpener := by
  intro free
  have noOpener := free .javaScript _ rfl ['a', '=', '/', '*', 'c', '*', '/', 'b']
    ⟨.operator, 1, 4⟩ (by decide +kernel) rfl
  exact noOpener ⟨['='], '*', [], by decide, Or.inr rfl⟩

/--
An operator of JavaScript, which has the slash among its operator characters, and
one of JSON, which does not, so that the comment behind it remains one.
-/
theorem operators_munch_of_scripts :
    Language.javaScript.grammar? = some Grammar.javaScript ∧
      Language.json.grammar? = some Grammar.json ∧
      ⟨.operator, 1, 3⟩ ∈
        (Grammar.javaScript.scan .normal ['a', '+', '=', 'f', '/', '/']).tokens 0 ∧
      ¬ Text.opensWith ['/', '/']
        (Token.text ⟨.operator, 1, 3⟩ ['a', '+', '=', 'f', '/', '/']) = true ∧
      'f' ∉ Grammar.javaScript.operators ∧
      (Grammar.json.scan .normal [':', '/', '/']).tokens 0 = [⟨.operator, 0, 1⟩, ⟨.comment, 1, 3⟩] ∧
      ¬ (Token.text ⟨.operator, 0, 1⟩ [':', '/', '/']).HoldsCommentOpener := by
  have script : Language.javaScript.grammar? = some Grammar.javaScript := rfl
  have data : Language.json.grammar? = some Grammar.json := rfl
  have member : ⟨.operator, 1, 3⟩ ∈
      (Grammar.javaScript.scan .normal ['a', '+', '=', 'f', '/', '/']).tokens 0 := by decide +kernel
  have neighbors : [⟨.operator, 1, 3⟩, ⟨.variableName, 3, 4⟩] <:+:
      (Grammar.javaScript.scan .normal ['a', '+', '=', 'f', '/', '/']).tokens 0 := by
    decide +kernel
  have commented : (Grammar.json.scan .normal [':', '/', '/']).tokens 0 =
      [⟨.operator, 0, 1⟩, ⟨.comment, 1, 3⟩] := by decide +kernel
  rcases operators_munch .javaScript script with ⟨inFront, behind, -⟩
  rcases operators_munch .json data with ⟨-, -, free⟩
  refine ⟨script, data, member, (inFront _ _ member rfl).2.1, ?_, commented, ?_⟩
  · exact behind _ _ _ neighbors rfl 'f' rfl
  · exact free.mpr (by decide) _ ⟨.operator, 0, 1⟩ (by rw [commented]; simp) rfl

end Language
end Lexis
