import Lexis.Cut

namespace Lexis

/-!
Cuts that stay within a line.

A line rule takes no line feed, and it takes the same from a text with a line
feed in it whatever is added behind that text.  The rules by which lexemes other
than strings and comments are cut are all of this kind.
-/

/-- Adding a text cannot change what a line rule takes: a line ends before it, or it is empty. -/
def Text.Settles (text more : Text) : Prop :=
  '\n' ∈ text ∨ more = []

theorem Text.head?_append_of_feed {text : Text} (more : Text) (feed : '\n' ∈ text) :
    List.head? (text ++ more) = text.head? := by
  cases text with
  | nil => exact absurd feed (by simp)
  | cons head tail => rfl

theorem Text.Settles.head?_append {text more : Text} (settled : text.Settles more) :
    List.head? (text ++ more) = text.head? := by
  rcases settled with feed | rfl
  · exact Text.head?_append_of_feed more feed
  · rw [List.append_nil]

theorem Text.Settles.tail {head : Char} {tail more : Text} (settled : Settles (head :: tail) more)
    (other : head ≠ '\n') : tail.Settles more := by
  rcases settled with feed | none
  · exact Or.inl ((List.mem_cons.mp feed).resolve_left (Ne.symm other))
  · exact Or.inr none

namespace Cut

/-- The cut of a longer text by a rule that has stopped before the added characters. -/
def extend (cut : Cut) (more : Text) : Cut :=
  { cut with rest := cut.rest ++ more }

@[simp] theorem extend_nil (cut : Cut) : cut.extend [] = cut := by
  simp [extend]

@[simp] theorem extend_push (head : Char) (cut : Cut) (more : Text) :
    (cut.push head).extend more = (cut.extend more).push head := rfl

@[simp] theorem extend_pushAll (front : Text) (cut : Cut) (more : Text) :
    (cut.pushAll front).extend more = (cut.extend more).pushAll front := rfl

@[simp] theorem extend_stop (text more : Text) :
    (stop text).extend more = stop (text ++ more) := rfl

/-- The rule takes characters of one line and looks at no others. -/
structure IsLineRule (rule : Text -> Cut) : Prop where
  noFeed : forall text, '\n' ∉ (rule text).taken
  append : forall {text more : Text}, text.Settles more ->
    rule (text ++ more) = (rule text).extend more

/-- It is enough to look at texts in which a line ends. -/
theorem IsLineRule.of_feed {rule : Text -> Cut} (noFeed : forall text, '\n' ∉ (rule text).taken)
    (append : forall {text : Text} (more : Text), '\n' ∈ text ->
      rule (text ++ more) = (rule text).extend more) : IsLineRule rule where
  noFeed := noFeed
  append {text more} settled := by
    rcases settled with feed | rfl
    · exact append more feed
    · simp

/-- What a line rule leaves of a text still has the text's line feeds. -/
theorem IsLineRule.settles_rest {rule : Text -> Cut} (isLineRule : IsLineRule rule)
    {text more : Text} (whole : (rule text).whole = text) (settled : text.Settles more) :
    (rule text).rest.Settles more := by
  rcases settled with feed | none
  · rw [← whole, Cut.whole] at feed
    exact Or.inl ((List.mem_append.mp feed).resolve_left (isLineRule.noFeed text))
  · exact Or.inr none

theorem isLineRule_stop : IsLineRule stop :=
  .of_feed (fun _ => by simp [stop]) fun _ _ => rfl

theorem isLineRule_run {inClass : Char -> Bool} (outside : inClass '\n' = false) :
    IsLineRule (run inClass) := by
  apply IsLineRule.of_feed
  · intro text member
    have inside : inClass '\n' = true := List.all_eq_true.mp List.all_takeWhile _ member
    simp [outside] at inside
  · intro text more feed
    induction text with
    | nil => exact absurd feed (by simp)
    | cons head tail ih =>
        by_cases member : inClass head = true
        · have other : head ≠ '\n' := by
            rintro rfl
            simp [outside] at member
          have rest := ih ((List.mem_cons.mp feed).resolve_left (Ne.symm other))
          simp only [run, Cut.extend, Cut.mk.injEq] at rest
          simp [run, extend, member, rest.1, rest.2]
        · simp [run, extend, member]

theorem isLineRule_toLineEnd : IsLineRule toLineEnd :=
  isLineRule_run (by decide)

theorem ne_feed_of_not_isLineBreak {character : Char} (other : ¬ isLineBreak character = true) :
    character ≠ '\n' := by
  rintro rfl
  exact other rfl

theorem noFeed_push {head : Char} {cut : Cut} (other : head ≠ '\n') (noFeed : '\n' ∉ cut.taken) :
    '\n' ∉ (cut.push head).taken := by
  simpa [push, Ne.symm other] using noFeed

theorem isLineRule_through (closer : Char) : IsLineRule (through closer) := by
  apply IsLineRule.of_feed
  · intro text
    fun_induction through closer text with
    | case1 => simp [stop]
    | case2 => simp [stop]
    | case3 tail inLine => exact noFeed_push (ne_feed_of_not_isLineBreak inLine) (by simp [stop])
    | case4 head tail inLine _ ih => exact noFeed_push (ne_feed_of_not_isLineBreak inLine) ih
  · intro text more feed
    fun_induction through closer text with
    | case1 => exact absurd feed (by simp)
    | case2 head tail breaks => simp [through, breaks]
    | case3 tail inLine => simp [through, inLine]
    | case4 head tail inLine other ih =>
        have inTail := (List.mem_cons.mp feed).resolve_left
          (Ne.symm (ne_feed_of_not_isLineBreak inLine))
        simp [through, inLine, other, ih inTail]

theorem isLineRule_throughPair (closer : Char) : IsLineRule (throughPair closer) := by
  apply IsLineRule.of_feed
  · intro text
    fun_induction throughPair closer text with
    | case1 => simp [stop]
    | case2 => simp [stop]
    | case3 head tail inLine double =>
        have other := ne_feed_of_not_isLineBreak inLine
        simp only [Bool.and_eq_true, decide_eq_true_eq] at double
        rcases List.head?_eq_some_iff.mp double.2 with ⟨rest, rfl⟩
        exact noFeed_push other (by simpa [count, double.1] using Ne.symm (double.1 ▸ other))
    | case4 head tail inLine _ ih => exact noFeed_push (ne_feed_of_not_isLineBreak inLine) ih
  · intro text more feed
    fun_induction throughPair closer text with
    | case1 => exact absurd feed (by simp)
    | case2 head tail breaks => simp [throughPair, breaks]
    | case3 head tail inLine double =>
        simp only [Bool.and_eq_true, decide_eq_true_eq] at double
        rcases List.head?_eq_some_iff.mp double.2 with ⟨rest, rfl⟩
        rcases double with ⟨rfl, -⟩
        simp [throughPair, inLine, count, push, extend]
    | case4 head tail inLine single ih =>
        have inTail := (List.mem_cons.mp feed).resolve_left
          (Ne.symm (ne_feed_of_not_isLineBreak inLine))
        have sameHead := Text.head?_append_of_feed more inTail
        rw [List.cons_append, throughPair, if_neg inLine, sameHead, if_neg single, ih inTail,
          extend_push]

/-- A line rule may begin behind a first character that ends no line. -/
theorem IsLineRule.behind {rule : Text -> Cut} (isLineRule : IsLineRule rule) {head : Char}
    (other : head ≠ '\n') (tail : Text) :
    '\n' ∉ (Cut.behind 1 rule (head :: tail)).taken ∧
      forall more, tail.Settles more ->
        Cut.behind 1 rule (head :: (tail ++ more)) =
          (Cut.behind 1 rule (head :: tail)).extend more := by
  constructor
  · simpa [Cut.behind, pushAll, Ne.symm other] using isLineRule.noFeed tail
  · intro more settled
    simp [Cut.behind, isLineRule.append settled]

end Cut
end Lexis
