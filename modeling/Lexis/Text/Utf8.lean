import Lexis.Text.Basic

namespace Lexis
namespace Utf8

/-!
Texts as UTF-8 bytes.

Decoding reads byte by byte.  Between characters nothing is pending; inside one
the decoder knows where the character began, which bits it has, and in which
range the next byte must lie.  The range is narrower behind those first bytes
that could otherwise begin an overlong form, a surrogate or a value past the
last code point.
-/

/-- The bytes of a text. -/
def encode (text : Text) : List UInt8 :=
  text.flatMap String.utf8EncodeChar

/-- Why bytes are no text. -/
inductive Fault where
  /-- So many bytes from the index on cannot begin a character. -/
  | invalid (length index : Nat)
  /-- The bytes end inside the character that begins at the index. -/
  | incomplete (index : Nat)
  deriving DecidableEq, Repr

def Fault.message : Fault -> String
  | invalid length index => s!"invalid utf-8 sequence of {length} bytes from index {index}"
  | incomplete index => s!"incomplete utf-8 byte sequence from index {index}"

/-- A character of which some bytes have been read. -/
structure Pending where
  start : Nat
  /-- How many of its bytes have been read. -/
  seen : Nat
  /-- How many bytes are still to come. -/
  missing : Nat
  bits : Nat
  least : UInt8 := 0x80
  greatest : UInt8 := 0xBF

/-- The character that a byte outside ASCII begins. -/
def begins? (index : Nat) (byte : UInt8) : Option Pending :=
  let pending (missing : Nat) (mark : UInt8) : Pending :=
    { start := index, seen := 1, missing := missing, bits := (byte - mark).toNat }
  if 0xC2 ≤ byte && byte ≤ 0xDF then some (pending 1 0xC0)
  else if byte == 0xE0 then some { pending 2 0xE0 with least := 0xA0 }
  else if byte == 0xED then some { pending 2 0xE0 with greatest := 0x9F }
  else if 0xE1 ≤ byte && byte ≤ 0xEF then some (pending 2 0xE0)
  else if byte == 0xF0 then some { pending 3 0xF0 with least := 0x90 }
  else if 0xF1 ≤ byte && byte ≤ 0xF3 then some (pending 3 0xF0)
  else if byte == 0xF4 then some { pending 3 0xF0 with greatest := 0x8F }
  else none

/-- The pending character with one more byte, whose low six bits belong to it. -/
def Pending.add (pending : Pending) (byte : UInt8) : Pending :=
  { start := pending.start
    seen := pending.seen + 1
    missing := pending.missing - 1
    bits := pending.bits * 64 + (byte - 0x80).toNat }

def decodeFrom (index : Nat) : Option Pending -> List UInt8 -> Except Fault Text
  | none, [] => .ok []
  | some pending, [] => .error (.incomplete pending.start)
  | none, byte :: bytes =>
      if byte < 0x80 then
        (decodeFrom (index + 1) none bytes).map (Char.ofNat byte.toNat :: ·)
      else match begins? index byte with
      | none => .error (.invalid 1 index)
      | some pending => decodeFrom (index + 1) (some pending) bytes
  | some pending, byte :: bytes =>
      if pending.least ≤ byte && byte ≤ pending.greatest then
        let extended := pending.add byte
        if extended.missing = 0 then
          (decodeFrom (index + 1) none bytes).map (Char.ofNat extended.bits :: ·)
        else decodeFrom (index + 1) (some extended) bytes
      else .error (.invalid pending.seen pending.start)

/-- The text whose bytes these are. -/
def decode (bytes : List UInt8) : Except Fault Text :=
  decodeFrom 0 none bytes

end Utf8
end Lexis
