namespace Lexis

/-!
Half-open ranges of byte offsets or line numbers.

A span given from outside may be inverted; it then contains nothing.
-/

structure Span where
  start : Nat
  stop : Nat
  deriving DecidableEq, Repr

namespace Span

/-- The number of places in the span; an inverted span has none. -/
def length (span : Span) : Nat :=
  span.stop - span.start

/-- The span contains nothing. -/
def isEmpty (span : Span) : Bool :=
  span.stop ≤ span.start

/-- The two bounds with two dots between them. -/
def display (span : Span) : String :=
  s!"{span.start}..{span.stop}"

end Span

/-- The greatest offset that can be stored. -/
def maxOffset : Nat := UInt64.size - 1

/-- An offset moved by a signed distance, held at zero and at `maxOffset`. -/
def moveOffset (offset : Nat) (distance : Int) : Nat :=
  min (offset + distance).toNat maxOffset

/-- An offset moved by a signed distance, if there is such an offset and it can be stored. -/
def moveOffset? (offset : Nat) (distance : Int) : Option Nat :=
  let moved := (offset : Int) + distance
  if moved < 0 ∨ (maxOffset : Int) < moved then none else some moved.toNat

end Lexis
