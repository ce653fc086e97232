import Lexis.Toml.Value

namespace Lexis
namespace Toml

/-!
Integers and floating-point numbers.

A number is read whatever its size; `Toml.Value.isStorable` tells which of them
a machine format can hold.
-/

/-- Digits of a base, with single underscores between them. -/
def digits (base value : Nat) (afterDigit : Bool) : Text -> Option Nat
  | [] => if afterDigit then some value else none
  | head :: tail =>
      if head = '_' then
        if afterDigit then digits base value false tail else none
      else
        match digitValue? head with
        | some digit =>
            if digit < base then digits base (base * value + digit) true tail else none
        | none => none

def natural? (base : Nat) (text : Text) : Option Nat :=
  digits base 0 false text

/-- A sign if there is one, and the text behind it. -/
def sign : Text -> Option Char × Text
  | '+' :: tail => (some '+', tail)
  | '-' :: tail => (some '-', tail)
  | text => (none, text)

/--
Decimal digits behind an optional sign, of which a zero is the first only if it
is the only one.  Behind a sign an underscore may come first; then zeros may
follow it.
-/
def decimal? (sign : Option Char) (text : Text) : Option Nat :=
  match text with
  | '_' :: tail => if sign.isSome then natural? 10 tail else none
  | '0' :: _ :: _ => none
  | _ => natural? 10 text

/-- The number with its sign. -/
def withSign (sign : Option Char) (value : Nat) : Int :=
  if sign = some '-' then -(value : Int) else value

def integer? (text : Text) : Option Int :=
  match text with
  | '0' :: 'x' :: tail => (natural? 16 tail).map Int.ofNat
  | '0' :: 'o' :: tail => (natural? 8 tail).map Int.ofNat
  | '0' :: 'b' :: tail => (natural? 2 tail).map Int.ofNat
  | _ =>
      let (sign, unsigned) := sign text
      (decimal? sign unsigned).map (withSign sign)

def isExponentMark (character : Char) : Bool :=
  character == 'e' || character == 'E'

/-- The exponent of a float, which may begin with zeros. -/
def exponent? (text : Text) : Option Int :=
  let (sign, unsigned) := sign text
  (natural? 10 unsigned).map (withSign sign)

/-- A number with a fraction or an exponent or both, or one of the special ones. -/
def float? (text : Text) : Option Decimal :=
  let (sign, unsigned) := sign text
  if unsigned = ['i', 'n', 'f'] || unsigned = ['n', 'a', 'n'] then some .special
  else
    let scaled := unsigned.takeWhile fun character => !isExponentMark character
    let exponent :=
      match unsigned.dropWhile fun character => !isExponentMark character with
      | [] => some none
      | _ :: tail => (exponent? tail).map some
    let whole := scaled.takeWhile (· ≠ '.')
    let fraction :=
      match scaled.dropWhile (· ≠ '.') with
      | [] => some none
      | _ :: tail => (natural? 10 tail).map fun _ => some (tail.filter (· ≠ '_'))
    match decimal? sign whole, fraction, exponent with
    | some _, some none, some none => none
    | some _, some fraction, some exponent =>
        let decimals := fraction.getD []
        let mantissa := (natural? 10 (whole.filter (· ≠ '_') ++ decimals)).getD 0
        some (.scaled mantissa (exponent.getD 0 - decimals.length))
    | _, _, _ => none

end Toml
end Lexis
