import Lexis.Text.Classes

namespace Lexis
namespace Toml

/-!
Dates and times.

A date or time is read into its canonical form: a capital letter between date
and time and for the zero offset, seconds always, and a fraction of at most
nine digits without trailing zeros.
-/

/-- A number of so many digits, not above a limit, and the text behind it. -/
def fixed? (length least greatest : Nat) (text : Text) : Option (Nat × Text) :=
  let front := text.take length
  if front.length = length && front.all isDigit then
    let value := front.foldl (fun value digit => 10 * value + (digit.toNat - '0'.toNat)) 0
    if least ≤ value && value ≤ greatest then some (value, text.drop length) else none
  else none

/-- The text behind an expected character. -/
def expect? (expected : Char) : Text -> Option Text
  | head :: tail => if head = expected then some tail else none
  | [] => none

def isLeapYear (year : Nat) : Bool :=
  year % 4 == 0 && (year % 100 != 0 || year % 400 == 0)

def daysOf (year month : Nat) : Nat :=
  if month == 2 then if isLeapYear year then 29 else 28
  else if [4, 6, 9, 11].contains month then 30
  else 31

/-- A full date at the start of a text: the date's characters, and the text behind them. -/
def date? (text : Text) : Option (Text × Text) := do
  let (year, rest) ← fixed? 4 0 9999 text
  let (month, rest) ← fixed? 2 1 12 (← expect? '-' rest)
  let (_, rest) ← fixed? 2 1 (daysOf year month) (← expect? '-' rest)
  return (text.take 10, rest)

/-- The seconds and their fraction, which may both be missing. -/
def seconds? (text : Text) : Option (Text × Text) :=
  match text with
  | ':' :: tail => do
      let (_, rest) ← fixed? 2 0 60 tail
      match rest with
      | '.' :: more =>
          let digits := more.takeWhile isDigit
          if digits.isEmpty then none
          else
            let kept := ((digits.take 9).reverse.dropWhile (· == '0')).reverse
            let fraction := if kept.isEmpty then [] else '.' :: kept
            return (text.take 3 ++ fraction, more.dropWhile isDigit)
      | _ => return (text.take 3, rest)
  | _ => some ([':', '0', '0'], text)

def time? (text : Text) : Option (Text × Text) := do
  let (_, rest) ← fixed? 2 0 23 text
  let (_, rest) ← fixed? 2 0 59 (← expect? ':' rest)
  let (seconds, rest) ← seconds? rest
  return (text.take 5 ++ seconds, rest)

/-- The offset from universal time, which may be missing; a zero offset is positive. -/
def offset? (text : Text) : Option Text :=
  match text with
  | [] => some []
  | head :: tail =>
      if head = 'Z' || head = 'z' then if tail.isEmpty then some ['Z'] else none
      else if head = '+' || head = '-' then do
        let (hours, rest) ← fixed? 2 0 23 tail
        let (minutes, rest) ← fixed? 2 0 59 (← expect? ':' rest)
        if !rest.isEmpty then none
        else if hours = 0 && minutes = 0 then some ('+' :: tail)
        else some text
      else none

def separatesTime (character : Char) : Bool :=
  character == 'T' || character == 't' || character == ' '

/-- The canonical form of a text that is a date, a time, or a date with a time. -/
def moment? (text : Text) : Option Text :=
  match date? text with
  | some (date, []) => some date
  | some (date, separator :: rest) => do
      if !separatesTime separator then none
      else
        let (time, rest) ← time? rest
        let offset ← offset? rest
        return date ++ 'T' :: time ++ offset
  | none =>
      match time? text with
      | some (time, []) => some time
      | _ => none

end Toml
end Lexis
