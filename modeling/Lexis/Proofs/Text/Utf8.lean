import Lexis.Proofs.Text.Boundary
import Lexis.Text.Utf8

namespace Lexis
namespace Utf8

/-!
Texts and their bytes.

The bytes of a text are read back as that text (`decode_encode`).  A boundary of
the text is a place between the bytes of two characters, so a text that is cut
there has its bytes cut there.
-/

/-! ## Reading back -/

theorem toNat_byte {number : Nat} (small : number < 256) :
    (UInt8.ofNat number).toNat = number := by
  rw [UInt8.toNat_ofNat', Nat.mod_eq_of_lt small]

theorem toNat_byte_sub {bits mark : Nat} (small : bits + mark < 256) :
    (UInt8.ofNat (bits + mark) - UInt8.ofNat mark).toNat = bits := by
  have marked : (UInt8.ofNat mark).toNat = mark := toNat_byte (by omega)
  rw [UInt8.toNat_sub_of_le, toNat_byte small, marked, Nat.add_sub_cancel]
  rw [UInt8.le_iff_toNat_le, toNat_byte small, marked]
  exact Nat.le_add_left mark bits

/-- The first byte of a character of two bytes. -/
theorem begins?_two (index : Nat) {high : Nat} (lower : 2 ≤ high) (upper : high < 32) :
    begins? index (UInt8.ofNat (high + 0xC0)) =
      some { start := index, seen := 1, missing := 1, bits := high } := by
  have byte : (UInt8.ofNat (high + 0xC0)).toNat = high + 0xC0 := toNat_byte (by omega)
  have bits : (UInt8.ofNat (high + 0xC0) - 0xC0).toNat = high := toNat_byte_sub (by omega)
  simp only [begins?, bits, UInt8.le_iff_toNat_le, byte, Bool.and_eq_true, decide_eq_true_eq]
  rw [if_pos]
  simp only [UInt8.reduceToNat]
  omega

/-- The first byte of a character of three bytes. -/
theorem begins?_three (index : Nat) {high : Nat} (upper : high < 16) :
    begins? index (UInt8.ofNat (high + 0xE0)) =
      some { start := index, seen := 1, missing := 2, bits := high,
             least := if high = 0 then 0xA0 else 0x80,
             greatest := if high = 13 then 0x9F else 0xBF } := by
  by_cases first : high = 0
  · subst first
    rfl
  by_cases surrogate : high = 13
  · subst surrogate
    rfl
  have byte : (UInt8.ofNat (high + 0xE0)).toNat = high + 0xE0 := toNat_byte (by omega)
  have bits : (UInt8.ofNat (high + 0xE0) - 0xE0).toNat = high := toNat_byte_sub (by omega)
  simp only [begins?, bits, UInt8.le_iff_toNat_le, ← UInt8.toNat_inj, byte, beq_iff_eq,
    Bool.and_eq_true, decide_eq_true_eq, UInt8.reduceToNat]
  rw [if_neg first, if_neg surrogate, if_neg (by omega), if_neg (by omega), if_neg (by omega),
    if_pos (by omega)]

/-- The first byte of a character of four bytes. -/
theorem begins?_four (index : Nat) {high : Nat} (upper : high < 5) :
    begins? index (UInt8.ofNat (high + 0xF0)) =
      some { start := index, seen := 1, missing := 3, bits := high,
             least := if high = 0 then 0x90 else 0x80,
             greatest := if high = 4 then 0x8F else 0xBF } := by
  match high, upper with
  | 0, _ | 1, _ | 2, _ | 3, _ | 4, _ => rfl

theorem decodeFrom_lead {index : Nat} {byte : UInt8} {pending : Pending} (bytes : List UInt8)
    (lead : 0x80 ≤ byte.toNat) (begins : begins? index byte = some pending) :
    decodeFrom index none (byte :: bytes) = decodeFrom (index + 1) (some pending) bytes := by
  have outside : ¬ byte < 0x80 := by
    rw [UInt8.lt_iff_toNat_lt]
    exact Nat.not_lt_of_le lead
  rw [decodeFrom, if_neg outside, begins]

/-- A byte that goes on with a character adds six bits to it. -/
theorem decodeFrom_next (index : Nat) (pending : Pending) {low : Nat} (bytes : List UInt8)
    (small : low < 64) (least : pending.least.toNat ≤ low + 0x80)
    (greatest : low + 0x80 ≤ pending.greatest.toNat) :
    decodeFrom index (some pending) (UInt8.ofNat (low + 0x80) :: bytes) =
      if pending.missing - 1 = 0 then
        (decodeFrom (index + 1) none bytes).map (Char.ofNat (pending.bits * 64 + low) :: ·)
      else
        decodeFrom (index + 1)
          (some { start := pending.start, seen := pending.seen + 1,
                  missing := pending.missing - 1, bits := pending.bits * 64 + low })
          bytes := by
  have byte : (UInt8.ofNat (low + 0x80)).toNat = low + 0x80 := toNat_byte (by omega)
  have bits : (UInt8.ofNat (low + 0x80) - 0x80).toNat = low := toNat_byte_sub (by omega)
  have accepted : (decide (pending.least ≤ UInt8.ofNat (low + 0x80)) &&
      decide (UInt8.ofNat (low + 0x80) ≤ pending.greatest)) = true := by
    rw [Bool.and_eq_true_iff, decide_eq_true_eq, decide_eq_true_eq, UInt8.le_iff_toNat_le,
      UInt8.le_iff_toNat_le, byte]
    exact ⟨least, greatest⟩
  rw [decodeFrom, if_pos accepted]
  simp only [Pending.add, bits]

/-- Where the range is not narrowed, any byte that can go on with a character does. -/
theorem decodeFrom_last (index start seen missing bits : Nat) {low : Nat} (bytes : List UInt8)
    (small : low < 64) :
    decodeFrom index
        (some { start := start, seen := seen, missing := missing, bits := bits })
        (UInt8.ofNat (low + 0x80) :: bytes) =
      if missing - 1 = 0 then
        (decodeFrom (index + 1) none bytes).map (Char.ofNat (bits * 64 + low) :: ·)
      else
        decodeFrom (index + 1)
          (some { start := start, seen := seen + 1, missing := missing - 1,
                  bits := bits * 64 + low })
          bytes :=
  decodeFrom_next index _ bytes small (Nat.le_add_left _ _)
    (Nat.add_le_add_right (Nat.le_of_lt_succ small) _)

/-! The bits of a code are laid out over two, three or four bytes. -/

theorem decodeFrom_two (index : Nat) {code : Nat} (bytes : List UInt8) (lower : 0x7F < code)
    (upper : code ≤ 0x7FF) :
    decodeFrom index none
        (UInt8.ofNat (code / 64 % 32 + 0xC0) :: UInt8.ofNat (code % 64 + 0x80) :: bytes) =
      (decodeFrom (index + 2) none bytes).map (Char.ofNat code :: ·) := by
  have high : code / 64 % 32 = code / 64 := Nat.mod_eq_of_lt (by omega)
  have low : code % 64 < 64 := Nat.mod_lt code (by omega)
  have whole : code / 64 * 64 + code % 64 = code := by omega
  have lead : 0x80 ≤ (UInt8.ofNat (code / 64 + 0xC0)).toNat := by
    rw [toNat_byte (by omega)]
    omega
  rw [high, decodeFrom_lead _ lead (begins?_two index (by omega) (by omega)),
    decodeFrom_last _ _ _ _ _ _ low]
  simp only [Nat.sub_self, if_true, whole]

theorem decodeFrom_three (index : Nat) {code : Nat} (bytes : List UInt8) (lower : 0x7FF < code)
    (upper : code ≤ 0xFFFF) (valid : code < 0xD800 ∨ 0xDFFF < code) :
    decodeFrom index none
        (UInt8.ofNat (code / 4096 % 16 + 0xE0) :: UInt8.ofNat (code / 64 % 64 + 0x80) ::
          UInt8.ofNat (code % 64 + 0x80) :: bytes) =
      (decodeFrom (index + 3) none bytes).map (Char.ofNat code :: ·) := by
  have high : code / 4096 % 16 = code / 4096 := Nat.mod_eq_of_lt (by omega)
  have middle : code / 64 % 64 < 64 := Nat.mod_lt (code / 64) (by omega)
  have low : code % 64 < 64 := Nat.mod_lt code (by omega)
  have whole : (code / 4096 * 64 + code / 64 % 64) * 64 + code % 64 = code := by omega
  have lead : 0x80 ≤ (UInt8.ofNat (code / 4096 + 0xE0)).toNat := by
    rw [toNat_byte (by omega)]
    omega
  -- a short code would have a smaller second byte, and a surrogate a greater one
  have least : (if code / 4096 = 0 then 0xA0 else 0x80 : UInt8).toNat ≤ code / 64 % 64 + 0x80 := by
    split
    · simp only [UInt8.reduceToNat]
      omega
    · exact Nat.le_add_left _ _
  have greatest :
      code / 64 % 64 + 0x80 ≤ (if code / 4096 = 13 then 0x9F else 0xBF : UInt8).toNat := by
    split
    · simp only [UInt8.reduceToNat]
      omega
    · exact Nat.add_le_add_right (Nat.le_of_lt_succ middle) _
  rw [high, decodeFrom_lead _ lead (begins?_three index (by omega)),
    decodeFrom_next _ _ _ middle least greatest,
    decodeFrom_last _ _ _ _ _ _ low]
  simp only [Nat.reduceSub, Nat.one_ne_zero, if_false, if_true, whole]

theorem decodeFrom_four (index : Nat) {code : Nat} (bytes : List UInt8) (lower : 0xFFFF < code)
    (upper : code < 0x110000) :
    decodeFrom index none
        (UInt8.ofNat (code / 262144 % 8 + 0xF0) :: UInt8.ofNat (code / 4096 % 64 + 0x80) ::
          UInt8.ofNat (code / 64 % 64 + 0x80) :: UInt8.ofNat (code % 64 + 0x80) :: bytes) =
      (decodeFrom (index + 4) none bytes).map (Char.ofNat code :: ·) := by
  have high : code / 262144 % 8 = code / 262144 := Nat.mod_eq_of_lt (by omega)
  have second : code / 4096 % 64 < 64 := Nat.mod_lt (code / 4096) (by omega)
  have third : code / 64 % 64 < 64 := Nat.mod_lt (code / 64) (by omega)
  have low : code % 64 < 64 := Nat.mod_lt code (by omega)
  have whole : ((code / 262144 * 64 + code / 4096 % 64) * 64 + code / 64 % 64) * 64 +
      code % 64 = code := by omega
  have lead : 0x80 ≤ (UInt8.ofNat (code / 262144 + 0xF0)).toNat := by
    rw [toNat_byte (by omega)]
    omega
  -- a short code would have a smaller second byte, and one past the last a greater one
  have least :
      (if code / 262144 = 0 then 0x90 else 0x80 : UInt8).toNat ≤ code / 4096 % 64 + 0x80 := by
    split
    · simp only [UInt8.reduceToNat]
      omega
    · exact Nat.le_add_left _ _
  have greatest :
      code / 4096 % 64 + 0x80 ≤ (if code / 262144 = 4 then 0x8F else 0xBF : UInt8).toNat := by
    split
    · simp only [UInt8.reduceToNat]
      omega
    · exact Nat.add_le_add_right (Nat.le_of_lt_succ second) _
  rw [high, decodeFrom_lead _ lead (begins?_four index (by omega)),
    decodeFrom_next _ _ _ second least greatest,
    decodeFrom_last _ _ _ _ _ _ third,
    decodeFrom_last _ _ _ _ _ _ low]
  simp only [Nat.reduceSub, Nat.reduceEqDiff, Nat.succ_ne_self, if_false, if_true, whole]

/-- The bytes of a character are read as that character. -/
theorem decodeFrom_encodeChar (index : Nat) (character : Char) (bytes : List UInt8) :
    decodeFrom index none (String.utf8EncodeChar character ++ bytes) =
      (decodeFrom (index + character.utf8Size) none bytes).map (character :: ·) := by
  have same : Char.ofNat character.val.toNat = character := Char.ofNat_toNat character
  have valid : character.val.toNat < 0xD800 ∨
      0xDFFF < character.val.toNat ∧ character.val.toNat < 0x110000 := character.valid
  rw [← String.length_utf8EncodeChar, String.utf8EncodeChar]
  generalize character.val.toNat = code at same valid ⊢
  subst same
  split
  · next ascii =>
      have byte : (UInt8.ofNat code).toNat = code := toNat_byte (by omega)
      have small : UInt8.ofNat code < 0x80 := by
        rw [UInt8.lt_iff_toNat_lt, byte]
        exact Nat.lt_succ_of_le ascii
      rw [List.singleton_append, decodeFrom, if_pos small, byte]
      rfl
  split
  · next beyond two => exact decodeFrom_two index bytes (by omega) two
  split
  · next beyond three => exact decodeFrom_three index bytes (by omega) three (by omega)
  · next beyond => exact decodeFrom_four index bytes (by omega) (by omega)

theorem encode_cons (head : Char) (tail : Text) :
    encode (head :: tail) = String.utf8EncodeChar head ++ encode tail :=
  List.flatMap_cons

theorem decodeFrom_encode (index : Nat) (text : Text) :
    decodeFrom index none (encode text) = .ok text := by
  induction text generalizing index with
  | nil => rfl
  | cons head tail ih =>
      rw [encode_cons, decodeFrom_encodeChar]
      exact congrArg (Except.map (head :: ·)) (ih (index + head.utf8Size))

/-- The bytes of a text are read as that text. -/
theorem decode_encode (text : Text) : decode (encode text) = .ok text :=
  decodeFrom_encode 0 text

/-! ## Cutting -/

theorem encode_append (front back : Text) : encode (front ++ back) = encode front ++ encode back :=
  List.flatMap_append

/-- A text has as many bytes as its size tells. -/
theorem length_encode (text : Text) : (encode text).length = text.size := by
  induction text with
  | nil => rfl
  | cons head tail ih =>
      rw [encode_cons, List.length_append, String.length_utf8EncodeChar, ih, Text.size_cons]

/-- A boundary of the text is a place between the bytes of its two parts. -/
theorem encode_cut {offset : Nat} {text : Text} (boundary : text.IsBoundary offset) :
    encode (text.before offset) = (encode text).take offset ∧
      encode (text.after offset) = (encode text).drop offset := by
  have parts := congrArg encode (Text.before_append_after offset text)
  have length : (encode (text.before offset)).length = offset :=
    (length_encode _).trans boundary
  rw [encode_append] at parts
  rw [← parts]
  exact ⟨(List.take_left' length).symm, (List.drop_left' length).symm⟩

end Utf8
end Lexis
