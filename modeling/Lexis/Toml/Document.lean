import Lexis.Toml.Statement

namespace Lexis
namespace Toml

/-!
Reading a whole TOML file into the table it stands for.

Assignments go into the table of the last header before them.
-/

/-- The table read so far, and the path of the header that is open. -/
structure Draft where
  entries : Entries := []
  path : List Text := []

namespace Draft

/-- The draft with one more statement, unless that contradicts what was read before. -/
def add (draft : Draft) : Statement -> Option Draft
  | .assignment key value =>
      let define := Entries.define value key.last key.front
      (Entries.alterUnder define draft.path draft.entries).map fun entries =>
        { draft with entries := entries }
  | .table key =>
      (Entries.openTable key draft.entries).map fun entries =>
        { entries := entries, path := key.front ++ [key.last] }
  | .element key =>
      (Entries.openElement key draft.entries).map fun entries =>
        { entries := entries, path := key.front ++ [key.last] }

end Draft

/-- The text without a byte order mark at its start. -/
def withoutMark : Text -> Text
  | '\ufeff' :: tail => tail
  | text => text

/-- The table that a file stands for, if it is well formed. -/
def read? (text : Text) : Option Entries := do
  let statements ← statements (withoutMark text)
  let draft ← statements.foldlM Draft.add {}
  return draft.entries

end Toml
end Lexis
