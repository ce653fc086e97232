import Lexis.Proofs.Scan.Spelled

namespace Lexis
namespace Scanner

/-!
The steps that tokens come from.

Each token of a run is what one step of the scanner takes of the text that
begins there, in the mode that the scanner has at that place
(`exists_step_of_mem`).  What the tokens in front tell of the mode is found by
following the steps (`KeepsTrack.exists_step`).  The last step leaves nothing, and
what is open behind it is open at the end of the text (`exists_last_step`).
-/

variable {Mode : Type} {scanner : Scanner Mode} {state : State} {mode : Mode} {front text : Text}

/-- In the given mode, the step at `head` cuts the token off from the rest of the source. -/
structure CutsOff (scanner : Scanner Mode) (source : Text) (mode : Mode) (head : Char)
    (tail : Text) (token : Token) : Prop where
  rest_eq : source.after token.start = head :: tail
  category_eq : token.category = (scanner.next mode head tail).category
  text_eq : token.text source = head :: (scanner.next mode head tail).cut.taken
  behind_eq : source.after token.stop = (scanner.next mode head tail).cut.rest

theorem CutsOff.isPrefix {source : Text} {head : Char} {tail : Text} {token : Token}
    (cutsOff : scanner.CutsOff source mode head tail token) :
    token.text source <+: head :: tail := by
  rw [cutsOff.text_eq, ← scanner.lexeme_append_rest mode head tail]
  exact List.prefix_append _ _

/-- The lexeme of a step is a token directly behind what lies in front. -/
theorem cutsOff_place (scanner : Scanner Mode) (front : Text) (mode : Mode) (head : Char)
    (tail : Text) :
    let lexeme := (scanner.next mode head tail).lexeme head
    scanner.CutsOff (front ++ head :: tail) mode head tail
      ⟨lexeme.category, front.size, front.size + lexeme.text.size⟩ := by
  intro lexeme
  have parts := scanner.lexeme_append_rest mode head tail
  constructor
  · exact Text.after_size_append front _
  · rfl
  · rw [← parts, Token.text, Text.slice_between]
    rfl
  · rw [← parts, ← Text.size_append, ← List.append_assoc, Text.after_size_append]

/-- What is known of the tokens in front of a place and of the mode there, each step keeps. -/
def KeepsTrack (scanner : Scanner Mode) (source : Text)
    (tracks : List Token -> Mode -> Prop) : Prop :=
  forall earlier mode head tail token, tracks earlier mode ->
    scanner.CutsOff source mode head tail token ->
      tracks (earlier ++ [token]) (scanner.next mode head tail).mode

/--
What is known where a run begins and kept by each step is known at each of its
tokens, of the tokens in front and of the mode in which the token is cut off.
-/
theorem KeepsTrack.exists_step {source : Text} {tracks : List Token -> Mode -> Prop}
    (keeps : scanner.KeepsTrack source tracks) (front : Text) (parts : front ++ text = source)
    (before : List Token) (entry : tracks before mode) {earlier later : List Token} {token : Token}
    (split : Lexeme.place front.size (scanner.run state mode text).lexemes =
      earlier ++ token :: later) :
    exists mode' head tail, tracks (before ++ earlier) mode' ∧
      scanner.CutsOff source mode' head tail token := by
  fun_induction run scanner state mode text generalizing front before earlier with
  | case1 => exact absurd split (by simp [Lexeme.place])
  | case2 state mode head tail step ih =>
      have cutsOff := scanner.cutsOff_place front mode head tail
      rw [parts] at cutsOff
      rw [Scan.cons, Lexeme.place] at split
      cases earlier with
      | nil =>
          rcases List.cons.inj split with ⟨rfl, -⟩
          rw [List.append_nil]
          exact ⟨mode, head, tail, entry, cutsOff⟩
      | cons first earlier =>
          rcases List.cons.inj split with ⟨rfl, behind⟩
          rw [← Text.size_append] at behind
          have rest : front ++ (step.lexeme head).text ++ step.cut.rest = source := by
            rw [List.append_assoc, scanner.lexeme_append_rest mode head tail, parts]
          have found := ih _ rest _ (keeps before mode head tail _ entry cutsOff) behind
          rwa [List.append_assoc] at found

/-- Each token of a run comes from a step of the scanner. -/
theorem exists_step_of_mem (front : Text) {token : Token}
    (member : token ∈ Lexeme.place front.size (scanner.run state mode text).lexemes) :
    exists mode' head tail, scanner.CutsOff (front ++ text) mode' head tail token := by
  have keeps : scanner.KeepsTrack (front ++ text) fun _ _ => True :=
    fun _ _ _ _ _ _ _ => trivial
  rcases List.append_of_mem member with ⟨earlier, later, split⟩
  rcases keeps.exists_step front rfl [] trivial split with ⟨mode', head, tail, -, cutsOff⟩
  exact ⟨mode', head, tail, cutsOff⟩

/-- The last token of a run comes from a step that settles what the text leaves open. -/
theorem exists_last_step (state : State) (mode : Mode) (front : Text) (nonempty : text ≠ []) :
    exists token mode' head tail,
      (Lexeme.place front.size (scanner.run state mode text).lexemes).getLast? = some token ∧
        scanner.CutsOff (front ++ text) mode' head tail token ∧
        (scanner.run state mode text).endState = (scanner.next mode' head tail).state := by
  revert front
  fun_induction run scanner state mode text with
  | case1 => exact absurd rfl nonempty
  | case2 state mode head tail step ih =>
      intro front
      simp only [Scan.cons, Lexeme.place]
      by_cases atEnd : step.cut.rest = []
      · rw [atEnd, run_nil]
        exact ⟨_, mode, head, tail, rfl, scanner.cutsOff_place front mode head tail, rfl⟩
      · rcases ih atEnd (front ++ (step.lexeme head).text) with
          ⟨token, last, character, more, isLast, cutsOff, sameState⟩
        rw [List.append_assoc, scanner.lexeme_append_rest mode head tail] at cutsOff
        refine ⟨token, last, character, more, ?_, cutsOff, sameState⟩
        rw [← Text.size_append, List.getLast?_cons, isLast, Option.getD_some]

end Scanner
end Lexis
