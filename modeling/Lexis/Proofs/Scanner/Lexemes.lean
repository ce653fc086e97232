import Lexis.Scanner

namespace Lexis
namespace Scanner

/-!
What the lexemes of a scan have in common.

A property of every lexeme that a scanner can cut off is one of every lexeme of
its scans, and a relation between a lexeme and the text behind it holds between
the lexemes that follow one another.
-/

variable {Mode : Type} {scanner : Scanner Mode} {relation : Lexeme -> Lexeme -> Prop}

theorem rest_isSuffix (scanner : Scanner Mode) (mode : Mode) (head : Char) (tail : Text) :
    (scanner.next mode head tail).cut.rest <:+ head :: tail := by
  have whole := scanner.whole_cut mode head tail
  exact ⟨head :: (scanner.next mode head tail).cut.taken, congrArg (head :: ·) whole⟩

/--
What every lexeme that begins somewhere in a text has in common, the lexemes of
its runs have in common.
-/
theorem forall_lexemes_run (property : Lexeme -> Prop) (state : State) (mode : Mode) {text : Text}
    (steps : forall mode head tail, head :: tail <:+ text ->
      property ((scanner.next mode head tail).lexeme head)) :
    forall lexeme, lexeme ∈ (scanner.run state mode text).lexemes -> property lexeme := by
  fun_induction Scanner.run scanner state mode text with
  | case1 => exact fun _ member => absurd member (by simp)
  | case2 state mode head tail step ih =>
      intro lexeme member
      rcases List.mem_cons.mp member with rfl | behind
      · exact steps mode head tail List.suffix_rfl
      · exact ih (fun mode other more inRest =>
          steps mode other more (inRest.trans (scanner.rest_isSuffix _ head tail))) lexeme behind

/-- The first lexeme of a run begins with the first character of the text. -/
theorem head?_of_prefix_run {state : State} {mode : Mode} {text : Text} {lexeme : Lexeme}
    (first : [lexeme] <+: (scanner.run state mode text).lexemes) :
    lexeme.text.head? = text.head? := by
  cases text with
  | nil =>
      rw [run_nil] at first
      exact absurd (List.prefix_nil.mp first) (by simp)
  | cons head tail =>
      rw [run_cons] at first
      rcases List.cons_prefix_cons.mp first with ⟨rfl, -⟩
      rfl

/--
What every lexeme has in common with what it leaves of the text, the lexemes of
a run have in common with those that follow them.
-/
theorem forall_neighbors_run
    (steps : forall mode head tail second,
      second.text.head? = (scanner.next mode head tail).cut.rest.head? ->
        relation ((scanner.next mode head tail).lexeme head) second)
    (state : State) (mode : Mode) (text : Text) :
    forall first second, [first, second] <:+: (scanner.run state mode text).lexemes ->
      relation first second := by
  fun_induction Scanner.run scanner state mode text with
  | case1 => exact fun _ _ neighbors => absurd (List.infix_nil.mp neighbors) (by simp)
  | case2 state mode head tail step ih =>
      intro first second neighbors
      rcases List.infix_cons_iff.mp neighbors with inFront | behind
      · rcases List.cons_prefix_cons.mp inFront with ⟨rfl, follows⟩
        exact steps mode head tail second (head?_of_prefix_run follows)
      · exact ih first second behind

theorem forall_lexemes_resume (property : Lexeme -> Prop)
    (steps : forall mode head tail, property ((scanner.next mode head tail).lexeme head))
    {category : Category} {construct : State} {body : Body}
    (inside : property (body.lexeme category construct)) (mode : Mode) :
    forall lexeme, lexeme ∈ (scanner.resume category construct mode body).lexemes ->
      property lexeme := by
  have behind := forall_lexemes_run property (body.state construct) mode
    fun mode head tail (_ : head :: tail <:+ body.cut.rest) => steps mode head tail
  intro lexeme member
  rw [resume] at member
  split at member
  · exact behind lexeme member
  · rcases List.mem_cons.mp member with rfl | inRun
    · exact inside
    · exact behind lexeme inRun

end Scanner
end Lexis
