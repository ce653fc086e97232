import Lexis.Text.Classes

namespace Lexis
namespace Toml

/-!
TOML values and tables.

A table remembers how it came about, because that decides who may still add to
it: an inline table is closed, a table with a header of its own takes no dotted
keys from elsewhere, and a table that was only passed through may get a header.
-/

inductive Origin where
  /-- Passed through on the way to the table of a header. -/
  | implicit
  /-- Passed through on the way to the last part of a dotted key. -/
  | dotted
  | header
  | inline
  deriving DecidableEq, Repr

/-- The number that a float stands for. -/
inductive Decimal where
  /-- The mantissa times a power of ten, without regard to the sign. -/
  | scaled (mantissa : Nat) (exponent : Int)
  /-- Infinity, or no number. -/
  | special
  deriving DecidableEq, Repr

inductive Value where
  | string (text : Text)
  | integer (value : Int)
  | float (value : Decimal)
  | boolean (value : Bool)
  /-- A date, a time, or both, in its canonical form. -/
  | date (text : Text)
  | array (values : List Value)
  | table (origin : Origin) (entries : List (Text × Value))
  /-- An array of tables that were opened by headers; the last one is open. -/
  | tables (elements : List (List (Text × Value)))

/-- The entries of a table in the order in which their keys came first. -/
abbrev Entries := List (Text × Value)

/-- A dotted key. -/
structure Key where
  front : List Text := []
  last : Text
  deriving DecidableEq, Repr

namespace Entries

def find? (entries : Entries) (key : Text) : Option Value :=
  (List.find? (fun entry : Text × Value => entry.1 == key) entries).map (·.2)

/-- Changes the value of one key, or gives it one; the change may be refused. -/
def alter (change : Option Value -> Option Value) (key : Text) : Entries -> Option Entries
  | [] => (change none).map fun value => [(key, value)]
  | entry :: entries =>
      if entry.1 = key then (change (some entry.2)).map fun value => (key, value) :: entries
      else (alter change key entries).map (entry :: ·)

/-- Changes the last of several tables. -/
def alterLast (change : Entries -> Option Entries) : List Entries -> Option (List Entries)
  | [] => none
  | [entries] => (change entries).map fun changed => [changed]
  | entries :: more => (alterLast change more).map (entries :: ·)

/-- Changes the table that a path of header keys leads to, and creates it if need be. -/
def alterUnder (change : Entries -> Option Entries) : List Text -> Entries -> Option Entries
  | [], entries => change entries
  | key :: keys, entries =>
      alter (fun
        | none => (alterUnder change keys []).map (Value.table .implicit)
        | some (.table .inline _) => none
        | some (.table origin inner) =>
            (alterUnder change keys inner).map (Value.table origin)
        | some (.tables elements) =>
            (alterLast (alterUnder change keys) elements).map Value.tables
        | some _ => none) key entries

/--
Gives a key its value.  The way to it may lead through tables that were passed
through before and through the last element of an array of tables, but the
table that the value is put into must be one of dotted keys.
-/
def define (value : Value) (last : Text) : List Text -> Entries -> Option Entries
  | [], entries => alter (fun
      | none => some value
      | some _ => none) last entries
  | key :: keys, entries =>
      alter (fun
        | none => (define value last keys []).map (Value.table .dotted)
        | some (.table .dotted inner) =>
            (define value last keys inner).map (Value.table .dotted)
        | some (.table .implicit inner) =>
            if keys.isEmpty then none
            else (define value last keys inner).map (Value.table .implicit)
        | some (.tables elements) =>
            if keys.isEmpty then none
            else (alterLast (define value last keys) elements).map Value.tables
        | some _ => none) key entries

/-- Opens the table of a header, which must not have been opened or defined before. -/
def openTable (key : Key) (entries : Entries) : Option Entries :=
  alterUnder (alter (fun
    | none => some (.table .header [])
    | some (.table .implicit inner) => some (.table .header inner)
    | some _ => none) key.last) key.front entries

/-- Opens another table of an array of tables. -/
def openElement (key : Key) (entries : Entries) : Option Entries :=
  alterUnder (alter (fun
    | none => some (.tables [[]])
    | some (.tables elements) => some (.tables (elements ++ [[]]))
    | some _ => none) key.last) key.front entries

/-- The table of the given dotted keys and values. -/
def ofAssignments (assignments : List (Key × Value)) : Option Entries :=
  assignments.foldlM (fun entries assignment =>
    define assignment.2 assignment.1.last assignment.1.front entries) []

end Entries
end Toml
end Lexis
