import Lexis.Proofs.Body
import Lexis.Proofs.Scanner.Steps

namespace Lexis

/-!
What a token tells of the step it comes from.

The category of a lexeme tells its kind, but for the kinds of comments and of
tags (`Grammar.tells_next`).  Every token of a text comes from a step, unless it
is what is left of a construct that an earlier text has opened
(`Grammar.exists_step_of_split_scan`).
-/

/-- A lexeme of the category is of the kind, as far as the category tells. -/
def Category.Tells (kind : Opening) : Category -> Prop
  | .whitespace => kind = .blank
  | .newline => kind = .lineBreak
  | .docComment => kind = .lineComment true
  | .comment => kind = .lineComment false ∨ kind = .blockComment ∨ kind = .markupComment
  | .tag => kind = .tagStart ∨ exists closer, kind = .tagEnd closer
  | .string => exists quote tripled, kind = .string quote tripled
  | .number => kind = .number
  | .attributeName => kind = .attributeName
  | .preprocessor => kind = .directive
  | .operator => kind = .operator
  | .delimiter | .punctuation | .plain => kind = .single
  | _ => kind = .word

/-- Nothing lies behind any place of the empty text. -/
theorem Text.after_nil (offset : Nat) : Text.after offset [] = [] := by
  cases offset <;> rfl

namespace Grammar

variable {grammar : Grammar} {inTag : Bool} {head : Char} {tail text : Text} {state : State}
  {token : Token}

theorem tells_wordCategory (grammar : Grammar) (word rest : Text) :
    (grammar.wordCategory word rest).Tells .word := by
  simp only [wordCategory, Keywords.classify]
  cases grammar.keywords.role? word.toWord with
  | some role => cases role <;> rfl
  | none =>
      simp only [Option.map_none]
      split
      · rfl
      · split <;> rfl

theorem tells_singleCategory (character : Char) : (singleCategory character).Tells .single := by
  simp only [singleCategory]
  split
  · rfl
  · split <;> rfl

/-- The category that a step gives its lexeme tells what kind it is of. -/
theorem tells_next (grammar : Grammar) (inTag : Bool) (head : Char) (tail : Text) :
    (grammar.next inTag head tail).category.Tells (grammar.opening inTag head tail) := by
  rw [next]
  cases grammar.opening inTag head tail with
  | word =>
      cases inTag with
      | true => rfl
      | false => exact tells_wordCategory grammar _ _
  | single => exact tells_singleCategory head
  | lineComment documentation =>
      cases documentation with
      | true => rfl
      | false => exact Or.inl rfl
  | blockComment => exact Or.inr (Or.inl rfl)
  | markupComment => exact Or.inr (Or.inr rfl)
  | tagStart => exact Or.inl rfl
  | tagEnd closer => exact Or.inr ⟨closer, rfl⟩
  | string quote tripled => exact ⟨quote, tripled, rfl⟩
  | _ => rfl

/-- The token is what is left of a construct that was open where the text begins. -/
structure IsCarried (state : State) (token : Token) : Prop where
  start_eq : token.start = 0
  inside : state ≠ .normal
  category_cases : token.category = .string ∨ token.category = .comment

/-- Behind what is left of the body, the tokens of a resumed scan come from steps. -/
theorem exists_step_of_split_resume {category : Category} {construct : State} {body : Body}
    {tracks : List Token -> Bool -> Prop} {earlier later : List Token}
    (whole : body.cut.whole = text) (keeps : grammar.scanner.KeepsTrack text tracks)
    (entry : tracks [] false)
    (carried : forall token : Token, token.category = category -> tracks [token] false)
    (split : (grammar.scanner.resume category construct false body).tokens 0 =
      earlier ++ token :: later) :
    token.start = 0 ∧ token.category = category ∨
      exists inTag head tail, tracks earlier inTag ∧
        grammar.scanner.CutsOff text inTag head tail token ∧
        (body.cut.taken = [] ∨ 0 < token.start) := by
  rw [Scanner.resume] at split
  split at split
  · next empty =>
      have none : body.cut.taken = [] := List.isEmpty_iff.mp empty
      rw [Cut.whole, none] at whole
      rcases keeps.exists_step [] whole [] entry split with ⟨inTag, head, tail, known, cutsOff⟩
      exact Or.inr ⟨inTag, head, tail, known, cutsOff, Or.inl none⟩
  · next present =>
      simp only [Scan.tokens, Scan.cons, Lexeme.place, Body.lexeme, Nat.zero_add] at split
      cases earlier with
      | nil =>
          rcases List.cons.inj split with ⟨rfl, -⟩
          exact Or.inl ⟨rfl, rfl⟩
      | cons first earlier =>
          rcases List.cons.inj split with ⟨rfl, behind⟩
          have positive : 0 < body.cut.taken.size := Text.size_pos (by simpa using present)
          have covers := grammar.scanner.covers_run (body.state construct) false body.cut.rest
          have tiles := covers.tiles body.cut.taken.size
          rw [Scan.tokens, behind] at tiles
          have lower : body.cut.taken.size ≤ token.start := (tiles.bounds (by simp)).1
          have entry := carried ⟨category, 0, body.cut.taken.size⟩ rfl
          rcases keeps.exists_step body.cut.taken whole [_] entry behind with
            ⟨inTag, head, tail, known, cutsOff⟩
          exact Or.inr ⟨inTag, head, tail, known, cutsOff,
            Or.inr (Nat.lt_of_lt_of_le positive lower)⟩

/--
Every token of a text is carried or comes from a step, for whose mode holds what
is known of the tokens in front.  Where nothing of the open construct is left,
the text begins with the line break that ends it.
-/
theorem exists_step_of_split_scan {tracks : List Token -> Bool -> Prop}
    {earlier later : List Token} (keeps : grammar.scanner.KeepsTrack text tracks)
    (entry : tracks [] false)
    (carried : forall token : Token, token.category = .string ∨ token.category = .comment ->
      tracks [token] false)
    (split : (grammar.scan state text).tokens 0 = earlier ++ token :: later) :
    IsCarried state token ∨
      exists inTag head tail, tracks earlier inTag ∧
        grammar.scanner.CutsOff text inTag head tail token ∧
        (state = .normal ∨ 0 < token.start ∨ isLineBreak head = true) := by
  cases state with
  | normal =>
      rcases keeps.exists_step [] rfl [] entry split with ⟨inTag, head, tail, known, cutsOff⟩
      exact Or.inr ⟨inTag, head, tail, known, cutsOff, Or.inl rfl⟩
  | inString quote multiline =>
      have whole := Body.whole_ofString quote multiline text
      rcases exists_step_of_split_resume whole keeps entry
        (fun token isString => carried token (Or.inl isString)) split with
        ⟨starts, isString⟩ | ⟨inTag, head, tail, known, cutsOff, place⟩
      · exact Or.inl ⟨starts, by simp, Or.inl isString⟩
      · refine Or.inr ⟨inTag, head, tail, known, cutsOff, Or.inr ?_⟩
        rcases Nat.eq_zero_or_pos token.start with starts | behind
        · have first := cutsOff.rest_eq
          rw [starts, Text.after_zero] at first
          have empty := place.resolve_right (by omega)
          rcases Body.rest_of_taken_ofString empty with none | ⟨mark, rest, breaks, ends⟩
          · exact absurd (first.symm.trans none) (by simp)
          · rw [ends, first] at whole
            rcases whole with ⟨⟩
            exact Or.inr breaks
        · exact Or.inl behind
  | inComment multiline markup =>
      have whole := Body.whole_ofComment (if markup then markupCloser else blockCloser) text
      rcases exists_step_of_split_resume whole keeps entry
        (fun token isComment => carried token (Or.inr isComment)) split with
        ⟨starts, isComment⟩ | ⟨inTag, head, tail, known, cutsOff, place⟩
      · exact Or.inl ⟨starts, by simp, Or.inr isComment⟩
      · refine Or.inr ⟨inTag, head, tail, known, cutsOff, Or.inr (Or.inl ?_)⟩
        rcases place with empty | behind
        · have none := Body.rest_of_taken_ofComment (by cases markup <;> decide) empty
          have first := cutsOff.rest_eq
          rw [none, Text.after_nil] at first
          exact absurd first (by simp)
        · exact behind

theorem exists_step_of_mem_scan (member : token ∈ (grammar.scan state text).tokens 0) :
    IsCarried state token ∨
      exists inTag head tail, grammar.scanner.CutsOff text inTag head tail token ∧
        (state = .normal ∨ 0 < token.start ∨ isLineBreak head = true) := by
  have keeps : grammar.scanner.KeepsTrack text fun _ _ => True := fun _ _ _ _ _ _ _ => trivial
  rcases List.append_of_mem member with ⟨earlier, later, split⟩
  rcases exists_step_of_split_scan keeps trivial (fun _ _ => trivial) split with
    isCarried | ⟨inTag, head, tail, -, cutsOff, place⟩
  · exact Or.inl isCarried
  · exact Or.inr ⟨inTag, head, tail, cutsOff, place⟩

end Grammar
end Lexis
