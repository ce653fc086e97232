import Lexis.Glob.Match
import Lexis.Proofs.Text.Folding

namespace Lexis
namespace Glob

/-!
Patterns that do not tell case apart.

A character class compares the character itself with the bounds of a range, so
`[A-_]` matches a capital and not its small letter.  Every other part ignores
case if the parts behind it do (`Part.IgnoresCase`), and a pattern without an
opening bracket has no class.
-/

/-- A part ignores case in front of parts that ignore it. -/
def Part.IgnoresCase (part : Part) : Prop :=
  forall rest, Lexis.IgnoresCase rest -> Lexis.IgnoresCase (part.accepts rest)

theorem acceptsOne_folded {test : Char -> Bool} {rest : Text -> Bool}
    (sameTest : forall character, test (foldCase character) = test character)
    (sameRest : IgnoresCase rest) : IgnoresCase (acceptsOne test rest) := by
  intro text
  cases text with
  | nil => rfl
  | cons head tail =>
      show (test (foldCase head) && rest (Text.folded tail)) = (test head && rest tail)
      rw [sameTest, sameRest]

theorem foldCase_bne_slash (character : Char) : (foldCase character != '/') = (character != '/') :=
  congrArg not (foldCase_beq rfl character)

theorem acceptsRun_folded {rest : Text -> Bool} (sameRest : IgnoresCase rest) :
    IgnoresCase (acceptsRun rest) := by
  intro text
  induction text with
  | nil => exact sameRest []
  | cons head tail ih =>
      show (rest (Text.folded (head :: tail)) ||
        (foldCase head != '/' && acceptsRun rest (Text.folded tail))) = _
      rw [sameRest, foldCase_bne_slash, ih, acceptsRun]

theorem acceptsDirectories_folded {rest : Text -> Bool} (sameRest : IgnoresCase rest)
    (atStart : Bool) : IgnoresCase (acceptsDirectories rest atStart) := by
  intro text
  induction text generalizing atStart with
  | nil => exact sameRest []
  | cons head tail ih =>
      show ((atStart && rest (Text.folded (head :: tail))) ||
        acceptsDirectories rest (foldCase head == '/') (Text.folded tail)) = _
      rw [sameRest, foldCase_beq rfl, ih, acceptsDirectories]

namespace Part

theorem ignoresCase_literal (expected : Char) : (literal expected).IgnoresCase := by
  intro rest
  apply acceptsOne_folded
  intro character
  rw [foldCase_foldCase]

theorem ignoresCase_anyCharacter : anyCharacter.IgnoresCase :=
  fun _ => acceptsOne_folded foldCase_bne_slash

theorem ignoresCase_anyRun : anyRun.IgnoresCase :=
  fun _ => acceptsRun_folded

theorem ignoresCase_anyDirectories : anyDirectories.IgnoresCase :=
  fun _ sameRest => acceptsDirectories_folded sameRest true

end Part

/-- Every part that was read ignores case. -/
def ReadsCaseless (parts : Except Fault (List Part)) : Prop :=
  forall found, parts = .ok found -> forall part, part ∈ found -> part.IgnoresCase

theorem readsCaseless_nil : ReadsCaseless (.ok []) :=
  fun _ parsed => Except.ok.inj parsed ▸ fun _ member => nomatch member

theorem readsCaseless_error (fault : Fault) : ReadsCaseless (.error fault) :=
  fun _ parsed => nomatch parsed

theorem ReadsCaseless.followedBy {part : Part} {parts : Except Fault (List Part)}
    (ignoresCase : part.IgnoresCase) (rest : ReadsCaseless parts) :
    ReadsCaseless (followedBy part parts) := by
  intro found parsed
  cases parts with
  | error fault => exact nomatch parsed
  | ok others =>
      obtain rfl : part :: others = found := Except.ok.inj parsed
      exact List.forall_mem_cons.mpr ⟨ignoresCase, rest others rfl⟩

/-- Without an opening bracket there is no class among the parts. -/
theorem readsCaseless_partsFrom (position : Nat) (atStart : Bool) {pattern : Text}
    (noClass : '[' ∉ pattern) : ReadsCaseless (partsFrom position atStart pattern) := by
  fun_induction partsFrom position atStart pattern with
  | case1 => exact readsCaseless_nil
  | case2 position atStart rest ih =>
      exact (ih (List.not_mem_of_not_mem_cons noClass)).followedBy Part.ignoresCase_anyCharacter
  | case4 position notStar =>
      exact readsCaseless_nil.followedBy Part.ignoresCase_anyDirectories
  | case5 position more notStar ih =>
      refine ReadsCaseless.followedBy Part.ignoresCase_anyDirectories (ih fun member => noClass ?_)
      exact List.mem_cons_of_mem _ (List.mem_cons_of_mem _ (List.mem_cons_of_mem _ member))
  | case8 position atStart rest notThree notTwo ih =>
      exact (ih (List.not_mem_of_not_mem_cons noClass)).followedBy Part.ignoresCase_anyRun
  | case10 position atStart rest => exact absurd List.mem_cons_self noClass
  | case11 position atStart head rest notAny notThree notTwo notRun notClass ih =>
      exact (ih (List.not_mem_of_not_mem_cons noClass)).followedBy (Part.ignoresCase_literal head)
  | case3 => exact readsCaseless_error _
  | case6 => exact readsCaseless_error _
  | case7 => exact readsCaseless_error _
  | case9 => exact readsCaseless_error _

theorem ignoresCase_accepts {parts : List Part}
    (caseless : forall part, part ∈ parts -> part.IgnoresCase) :
    Lexis.IgnoresCase (accepts parts) := by
  induction parts with
  | nil => exact fun text => List.isEmpty_map
  | cons part parts ih =>
      rcases List.forall_mem_cons.mp caseless with ⟨first, others⟩
      exact first _ (ih others)

theorem ignoresCase_isMatch {pattern : Text} (noClass : '[' ∉ pattern) :
    Lexis.IgnoresCase (isMatch pattern) := by
  intro name
  have caseless := readsCaseless_partsFrom 0 true noClass
  simp only [isMatch]
  cases read : parts pattern with
  | error fault => rfl
  | ok found => exact ignoresCase_accepts (caseless found read) name

/-- The class reaches from the capitals beyond them, but not as far as the small letters. -/
example : isMatch "[A-_]".toList ['K'] = true ∧ isMatch "[A-_]".toList ['k'] = false := by
  decide +kernel

end Glob
end Lexis
