import Lexis.Proofs.Text.Utf8

namespace Lexis
namespace Utf8

/-!
The order of texts is that of their bytes.

Texts are compared character by character, and characters by their codes.  UTF-8
is made so that comparing byte by byte gives the same (`encode_lt_encode_iff`):
the first byte grows with the number of bytes, and of two characters with equally
many the bits are laid out from the highest on.
-/

theorem byte_lt_byte_iff {first second : Nat} (small : first < 256) (alsoSmall : second < 256) :
    UInt8.ofNat first < UInt8.ofNat second ↔ first < second := by
  rw [UInt8.lt_iff_toNat_lt, toNat_byte small, toNat_byte alsoSmall]

theorem byte_eq_byte_iff {first second : Nat} (small : first < 256) (alsoSmall : second < 256) :
    UInt8.ofNat first = UInt8.ofNat second ↔ first = second := by
  rw [← UInt8.toNat_inj, toNat_byte small, toNat_byte alsoSmall]

/-- What is decided among the first bytes stays so, whatever follows them. -/
theorem append_lt_append {first second : List UInt8} (less : first < second)
    (same : first.length = second.length) (front back : List UInt8) :
    first ++ front < second ++ back := by
  induction first generalizing second with
  | nil =>
      rw [List.eq_nil_of_length_eq_zero same.symm] at less
      exact absurd less (List.lt_irrefl [])
  | cons head tail ih =>
      cases second with
      | nil => exact absurd same (by simp)
      | cons other others =>
          rw [List.cons_append, List.cons_append, List.cons_lt_cons_iff]
          rcases List.cons_lt_cons_iff.mp less with lower | ⟨equal, behind⟩
          · exact Or.inl lower
          · exact Or.inr ⟨equal, ih behind (Nat.succ.inj same)⟩

/-- A lesser first byte decides. -/
theorem cons_lt_cons {lead other : Nat} (lower : lead < other) (small : other < 256)
    (front back : List UInt8) : UInt8.ofNat lead :: front < UInt8.ofNat other :: back :=
  List.cons_lt_cons_iff.mpr (Or.inl ((byte_lt_byte_iff (Nat.lt_trans lower small) small).mpr lower))

theorem encodeChar_ne_nil (character : Char) : String.utf8EncodeChar character ≠ [] := by
  apply List.ne_nil_of_length_pos
  rw [String.length_utf8EncodeChar]
  exact character.utf8Size_pos

theorem encodeChar_lt {first second : Char} (less : first < second) (front back : List UInt8) :
    String.utf8EncodeChar first ++ front < String.utf8EncodeChar second ++ back := by
  have codes : first.val.toNat < second.val.toNat := UInt32.lt_iff_toNat_lt.mp less
  have bound : second.val.toNat < 0x110000 := by
    have valid := second.valid
    omega
  rw [String.utf8EncodeChar, String.utf8EncodeChar]
  generalize first.val.toNat = low at codes ⊢
  generalize second.val.toNat = high at codes bound ⊢
  repeat' split
  -- of characters with equally many bytes, the first byte that differs decides
  case isTrue.isTrue | isFalse.isTrue.isFalse.isTrue |
      isFalse.isFalse.isTrue.isFalse.isFalse.isTrue |
      isFalse.isFalse.isFalse.isFalse.isFalse.isFalse =>
    refine append_lt_append ?_ ?_ front back
    · have groups : forall code, code / 4096 = code / 64 / 64 ∧
          code / 262144 = code / 64 / 64 / 64 := by
        omega
      simp (disch := omega) only [List.cons_lt_cons_iff, byte_lt_byte_iff, byte_eq_byte_iff,
        List.not_lt_nil, groups]
      omega
    · simp only [List.length_cons, List.length_nil]
  -- otherwise the second character has more bytes
  all_goals exact cons_lt_cons (by omega) (by omega) _ _

theorem encode_lt_encode {first second : Text} (less : first < second) :
    encode first < encode second := by
  induction first generalizing second with
  | nil =>
      cases second with
      | nil => exact absurd less (List.lt_irrefl [])
      | cons head tail =>
          rcases List.exists_cons_of_ne_nil (encodeChar_ne_nil head) with ⟨lead, bytes, same⟩
          rw [encode_cons, same]
          exact List.nil_lt_cons lead _
  | cons head tail ih =>
      cases second with
      | nil => exact absurd less (List.not_lt_nil _)
      | cons other others =>
          rw [encode_cons, encode_cons]
          rcases List.cons_lt_cons_iff.mp less with lower | ⟨rfl, behind⟩
          · exact encodeChar_lt lower _ _
          · exact List.append_left_lt (ih behind)

/-- Texts are ordered as their bytes are. -/
theorem encode_lt_encode_iff {first second : Text} :
    encode first < encode second ↔ first < second := by
  refine ⟨fun less => Decidable.byContradiction fun notLess => ?_, encode_lt_encode⟩
  rcases List.le_iff_lt_or_eq.mp (List.not_lt.mp notLess) with greater | rfl
  · exact List.lt_asymm less (encode_lt_encode greater)
  · exact List.lt_irrefl _ less

end Utf8
end Lexis
