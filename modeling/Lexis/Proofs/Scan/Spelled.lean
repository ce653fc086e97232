import Lexis.Proofs.Scanner.Covers
import Lexis.Proofs.Text.Boundary

namespace Lexis

/-!
The texts of tokens.

A token is read in its source by cutting the source at the token's two offsets.
For the tokens of a scan this gives the lexemes back: token by token, category
and text are those of the lexeme that was placed there (`Scan.Covers.spelled`).
-/

/-- What a reader sees of a token: its category and its part of the source. -/
def Token.spelled (source : Text) (token : Token) : Category × Text :=
  (token.category, token.text source)

def Lexeme.spelled (lexeme : Lexeme) : Category × Text :=
  (lexeme.category, lexeme.text)

/-- Lexemes that are placed between two texts are found there again. -/
theorem Lexeme.spelled_place (front back : Text) (lexemes : List Lexeme) :
    (place front.size lexemes).map (Token.spelled (front ++ (spell lexemes ++ back))) =
      lexemes.map Lexeme.spelled := by
  induction lexemes generalizing front with
  | nil => rfl
  | cons lexeme lexemes ih =>
      have source : front ++ (spell (lexeme :: lexemes) ++ back) =
          front ++ (lexeme.text ++ (spell lexemes ++ back)) := by
        simp [spell]
      have rest := ih (front ++ lexeme.text)
      rw [Text.size_append, List.append_assoc] at rest
      rw [source, place, List.map_cons, List.map_cons, rest]
      simp only [Token.spelled, Token.text, Text.slice_between, Lexeme.spelled]

/-- The tokens of a text, read in it, are its lexemes. -/
theorem Scan.Covers.spelled {scan : Scan} {text : Text} (covers : scan.Covers text) :
    (scan.tokens 0).map (Token.spelled text) = scan.lexemes.map Lexeme.spelled := by
  have placed := Lexeme.spelled_place [] [] scan.lexemes
  rw [List.append_nil, List.nil_append] at placed
  rw [← covers.text_eq]
  exact placed

/-- Each token stands for one of the lexemes. -/
theorem Scan.Covers.exists_lexeme {scan : Scan} {text : Text} (covers : scan.Covers text)
    {token : Token} (member : token ∈ scan.tokens 0) :
    exists lexeme, lexeme ∈ scan.lexemes ∧ lexeme.category = token.category ∧
      lexeme.text = token.text text := by
  have inSpelled : token.spelled text ∈ scan.lexemes.map Lexeme.spelled := by
    rw [← covers.spelled]
    exact List.mem_map_of_mem member
  rcases List.mem_map.mp inSpelled with ⟨lexeme, inLexemes, same⟩
  exact ⟨lexeme, inLexemes, congrArg Prod.fst same, congrArg Prod.snd same⟩

/-- Tokens that follow one another stand for lexemes that do. -/
theorem Scan.Covers.exists_neighbors {scan : Scan} {text : Text} (covers : scan.Covers text)
    {first second : Token} (neighbors : [first, second] <:+: scan.tokens 0) :
    exists earlier later, [earlier, later] <:+: scan.lexemes ∧
      earlier.spelled = first.spelled text ∧ later.spelled = second.spelled text := by
  have inSpelled := neighbors.map (Token.spelled text)
  rw [covers.spelled] at inSpelled
  rcases List.infix_map_iff.mp inSpelled with ⟨lexemes, inLexemes, same⟩
  rcases List.map_eq_cons_iff.mp same.symm with ⟨earlier, others, rfl, earlierSame, rest⟩
  rcases List.map_eq_singleton_iff.mp rest with ⟨later, rfl, laterSame⟩
  exact ⟨earlier, later, inLexemes, earlierSame, laterSame⟩

end Lexis
