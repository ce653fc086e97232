import Lexis.Cut

namespace Lexis
namespace Numeral

/-!
Numbers as they are written in source text.

A number has either a base mark and digits of that base, or decimal digits, at
most one fraction and at most one exponent.  Underscores may stand among the
digits.  Both functions here take the text behind the number's first character.
-/

/-- The base that a letter behind a leading zero stands for. -/
def base? (octal : Bool) (mark : Char) : Option Nat :=
  if mark == 'x' || mark == 'X' then some 16
  else if mark == 'b' || mark == 'B' then some 2
  else if octal && (mark == 'o' || mark == 'O') then some 8
  else none

def isSign (character : Char) : Bool :=
  character == '+' || character == '-'

def isExponentMark (character : Char) : Bool :=
  character == 'e' || character == 'E'

/--
Decimal digits with fraction and exponent; the two arguments tell which of
them the number already has.  A point counts only before a digit, and an
exponent mark counts even if no digit follows it.
-/
def decimal (hasFraction hasExponent : Bool) : Text -> Cut
  | [] => Cut.stop []
  | head :: tail =>
      if isDigit head || head == '_' then (decimal hasFraction hasExponent tail).push head
      else if head == '.' && !hasFraction && !hasExponent && tail.head?.any isDigit then
        (decimal true hasExponent tail).push head
      else if isExponentMark head && !hasExponent then
        match tail with
        | [] => (Cut.stop []).push head
        | sign :: rest =>
            if isSign sign then ((decimal hasFraction true rest).push sign).push head
            else (decimal hasFraction true (sign :: rest)).push head
      else Cut.stop (head :: tail)

@[simp] theorem whole_decimal (hasFraction hasExponent : Bool) (text : Text) :
    (decimal hasFraction hasExponent text).whole = text := by
  fun_induction decimal hasFraction hasExponent text <;> simp_all

/-- The rest of a number that begins with a digit, or with a point before a digit. -/
def cut (octal : Bool) (head : Char) (tail : Text) : Cut :=
  match tail with
  | [] => Cut.stop []
  | mark :: rest =>
      match if head == '0' then base? octal mark else none with
      | some base =>
          (Cut.run (fun digit => digit == '_' || isDigitIn base digit) rest).push mark
      | none => decimal (head == '.') false (mark :: rest)

@[simp] theorem whole_cut (octal : Bool) (head : Char) (tail : Text) :
    (cut octal head tail).whole = tail := by
  unfold cut
  split
  · rfl
  · split <;> simp

end Numeral
end Lexis
