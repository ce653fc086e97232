namespace Lexis
namespace Unicode

/-!
Character properties given by ranges of code points.

A property is a list of inclusive ranges in ascending order.  The modules
beside this one each hold the ranges of one property.
-/

/-- Inclusive ranges of code points. -/
abbrev Ranges := List (Nat × Nat)

/-- The character's code point lies in one of the ranges. -/
def Ranges.contains (ranges : Ranges) (character : Char) : Bool :=
  ranges.any fun range => range.1 ≤ character.toNat && character.toNat ≤ range.2

end Unicode
end Lexis
