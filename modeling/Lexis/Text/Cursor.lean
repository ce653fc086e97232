import Lexis.Cut

namespace Lexis

/-!
Cursors: a place in a text that lies somewhere in a document.

A cursor moves forward over whole characters.  It keeps the unread text and the
document offset of its first character.  The scanners leave places aside: they cut
lexemes off a text, and the lexemes are placed afterwards.  A cursor is for reading
a text step by step with the place in view, and each of its moves is such a cut
(`Cursor.past`).
-/

structure Cursor where
  /-- The document offset of the next unread byte. -/
  offset : Nat
  rest : Text
  deriving DecidableEq, Repr

namespace Cursor

/-- At the start of a text that begins at the given offset of its document. -/
def start (text : Text) (base : Nat) : Cursor :=
  { offset := base, rest := text }

def atEnd (cursor : Cursor) : Bool :=
  cursor.rest.isEmpty

/-- The next character, without moving. -/
def peek (cursor : Cursor) : Option Char :=
  cursor.rest.head?

/-- The character so many characters behind the next one. -/
def peekAt (cursor : Cursor) (number : Nat) : Option Char :=
  cursor.rest[number]?

def startsWith (cursor : Cursor) (expected : Text) : Bool :=
  Text.opensWith expected cursor.rest

/-- Moves past what a cut takes of the unread text. -/
def past (cursor : Cursor) (cut : Cut) : Cursor :=
  { offset := cursor.offset + cut.taken.size, rest := cut.rest }

/-- Moves over the characters that start within the next bytes, and not past the end. -/
def skip (cursor : Cursor) (bytes : Nat) : Cursor :=
  cursor.past { taken := cursor.rest.before bytes, rest := cursor.rest.after bytes }

/-- Takes the next character. -/
def take (cursor : Cursor) : Option Char × Cursor :=
  (cursor.peek, cursor.past (Cut.count 1 cursor.rest))

/-- Takes the expected text if it comes next. -/
def takeText (cursor : Cursor) (expected : Text) : Bool × Cursor :=
  if cursor.startsWith expected then
    (true, cursor.past (Cut.count expected.length cursor.rest))
  else (false, cursor)

/-- Takes the longest run of characters in a class, and tells how many bytes it has. -/
def takeRun (cursor : Cursor) (inClass : Char -> Bool) : Nat × Cursor :=
  let cut := Cut.run inClass cursor.rest
  (cut.taken.size, cursor.past cut)

end Cursor
end Lexis
