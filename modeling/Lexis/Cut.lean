import Lexis.Text.Classes

namespace Lexis

/-!
Cuts: a text divided into what a rule takes and what it leaves.

Every way of cutting in this module loses nothing: the two parts put together
are the text (`Cut.whole`).
-/

structure Cut where
  taken : Text
  rest : Text
  deriving DecidableEq, Repr

namespace Cut

/-- The text that was cut. -/
def whole (cut : Cut) : Text :=
  cut.taken ++ cut.rest

/-- Nothing is taken. -/
def stop (text : Text) : Cut :=
  { taken := [], rest := text }

/-- One more character is taken in front. -/
def push (head : Char) (cut : Cut) : Cut :=
  { cut with taken := head :: cut.taken }

/-- Several more characters are taken in front. -/
def pushAll (front : Text) (cut : Cut) : Cut :=
  { cut with taken := front ++ cut.taken }

@[simp] theorem whole_stop (text : Text) : (stop text).whole = text := rfl

@[simp] theorem whole_push (head : Char) (cut : Cut) :
    (cut.push head).whole = head :: cut.whole := rfl

@[simp] theorem whole_pushAll (front : Text) (cut : Cut) :
    (cut.pushAll front).whole = front ++ cut.whole := by
  simp [whole, pushAll]

/-- Takes a number of characters. -/
def count (number : Nat) (text : Text) : Cut :=
  { taken := text.take number, rest := text.drop number }

@[simp] theorem whole_count (number : Nat) (text : Text) : (count number text).whole = text := by
  simp [whole, count]

/-- Takes a number of characters, and then what a rule takes behind them. -/
def behind (number : Nat) (rule : Text -> Cut) (text : Text) : Cut :=
  (rule (text.drop number)).pushAll (text.take number)

theorem whole_behind (number : Nat) {rule : Text -> Cut} {text : Text}
    (whole : (rule (text.drop number)).whole = text.drop number) :
    (behind number rule text).whole = text := by
  rw [behind, whole_pushAll, whole, List.take_append_drop]

/-- Takes the longest run of characters in a class. -/
def run (inClass : Char -> Bool) (text : Text) : Cut :=
  { taken := text.takeWhile inClass, rest := text.dropWhile inClass }

@[simp] theorem whole_run (inClass : Char -> Bool) (text : Text) :
    (run inClass text).whole = text := by
  simp [whole, run]

/-- Takes everything before the next line break. -/
def toLineEnd (text : Text) : Cut :=
  run (fun character => !isLineBreak character) text

@[simp] theorem whole_toLineEnd (text : Text) : (toLineEnd text).whole = text :=
  whole_run _ text

/-- Takes everything up to and including a closing character, or else up to the line's end. -/
def through (closer : Char) : Text -> Cut
  | [] => stop []
  | head :: tail =>
      if isLineBreak head then stop (head :: tail)
      else if head = closer then (stop tail).push head
      else (through closer tail).push head

@[simp] theorem whole_through (closer : Char) (text : Text) :
    (through closer text).whole = text := by
  fun_induction through closer text <;> simp_all

/-- Takes everything up to and including a doubled character, or else up to the line's end. -/
def throughPair (closer : Char) : Text -> Cut
  | [] => stop []
  | head :: tail =>
      if isLineBreak head then stop (head :: tail)
      else if head = closer && tail.head? = some closer then (count 1 tail).push head
      else (throughPair closer tail).push head

@[simp] theorem whole_throughPair (closer : Char) (text : Text) :
    (throughPair closer text).whole = text := by
  fun_induction throughPair closer text <;> simp_all

end Cut
end Lexis
