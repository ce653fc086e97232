namespace Lexis

/-!
Searching by halving.

Where the items of a list that pass a test all lie in front of those that fail
it, the number of those that pass is found without looking at all of them.
-/

variable {Item : Type}

/--
The number of items that pass the test, if they lie in front of those that fail
it.  The item in the middle tells in which half the search goes on.
-/
def partitionPoint (passes : Item -> Bool) (items : List Item) : Nat :=
  if items.length ≤ 1 then items.countP passes
  else if items[items.length / 2]?.any passes then
    items.length / 2 + partitionPoint passes (items.drop (items.length / 2))
  else partitionPoint passes (items.take (items.length - items.length / 2))
termination_by items.length
decreasing_by
  · rw [List.length_drop]
    omega
  · rw [List.length_take]
    omega

end Lexis
