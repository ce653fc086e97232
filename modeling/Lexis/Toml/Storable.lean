import Lexis.Toml.Value

namespace Lexis
namespace Toml

/-!
Values that machine formats can hold.

Integers have at most 128 bits, and a float must not round to infinity unless
it is written as infinity.  A file may hold other numbers too, as long as
nobody looks at them.
-/

/-- The integer fits into 128 bits, with or without a sign. -/
def isStorableInteger (value : Int) : Bool :=
  let size : Int := Nat.pow 2 127
  value < 2 * size && -size ≤ value

/-- The least number that rounds beyond the greatest finite double. -/
def floatBound : Nat := Nat.pow 2 1024 - Nat.pow 2 970

/-- The number rounds to a finite double, or is not meant to be finite. -/
def Decimal.isStorable : Decimal -> Bool
  | special => true
  | scaled mantissa exponent =>
      if mantissa = 0 then true
      else
        let magnitude := exponent + (Nat.toDigits 10 mantissa).length
        if magnitude < 300 then true
        else if 400 < magnitude then false
        else if 0 ≤ exponent then mantissa * Nat.pow 10 exponent.toNat < floatBound
        else mantissa < floatBound * Nat.pow 10 (-exponent).toNat

mutual

/-- Every number in the value can be held. -/
def Value.isStorable : Value -> Bool
  | .integer value => isStorableInteger value
  | .float value => value.isStorable
  | .array values => areStorable values
  | .table _ entries => haveStorable entries
  | .tables elements => allHaveStorable elements
  | .string _ | .boolean _ | .date _ => true

/-- Every value of an array can be held. -/
def areStorable : List Value -> Bool
  | [] => true
  | value :: values => value.isStorable && areStorable values

/-- Every entry of a table holds a value that can be held. -/
def haveStorable : List (Text × Value) -> Bool
  | [] => true
  | (_, value) :: entries => value.isStorable && haveStorable entries

/-- Every element of an array of tables can be held. -/
def allHaveStorable : List (List (Text × Value)) -> Bool
  | [] => true
  | entries :: elements => haveStorable entries && allHaveStorable elements

end

/-- The entries whose keys are not among the given ones can all be held. -/
def Entries.othersStorable (keys : List Text) (entries : Entries) : Bool :=
  entries.all fun entry => keys.contains entry.1 || entry.2.isStorable

end Toml
end Lexis
