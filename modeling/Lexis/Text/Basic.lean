namespace Lexis

/-!
Texts and byte offsets.

A text is the list of its characters.  Positions are byte offsets into its
UTF-8 form; they are measured on demand by `Text.size` and never stored in the
text.  `Text.before` and `Text.after` cut a text at an offset, and an offset
is a boundary exactly when the cut falls between two characters.
-/

/-- A text is its characters in order. -/
abbrev Text := List Char

namespace Text

/-- The number of bytes of the text in UTF-8. -/
def size : Text -> Nat
  | [] => 0
  | head :: tail => head.utf8Size + size tail

@[simp] theorem size_nil : size [] = 0 := rfl

@[simp] theorem size_cons (head : Char) (tail : Text) :
    size (head :: tail) = head.utf8Size + size tail := rfl

@[simp] theorem size_append (left right : Text) :
    size (left ++ right) = size left + size right := by
  induction left with
  | nil => simp
  | cons head tail ih => simp [ih, Nat.add_assoc]

theorem size_pos {text : Text} (nonempty : text ≠ []) : 0 < size text := by
  cases text with
  | nil => exact absurd rfl nonempty
  | cons head tail =>
      have := head.utf8Size_pos
      simp only [size_cons]
      omega

theorem size_eq_zero_iff {text : Text} : size text = 0 ↔ text = [] := by
  refine ⟨fun nothing => Decidable.byContradiction fun present => ?_, fun same => same ▸ rfl⟩
  exact absurd nothing (Nat.ne_of_gt (size_pos present))

/-- The characters that start before a byte offset. -/
def before : Nat -> Text -> Text
  | 0, _ => []
  | _ + 1, [] => []
  | offset + 1, head :: tail => head :: before (offset + 1 - head.utf8Size) tail

/-- The characters that start at a byte offset or later. -/
def after : Nat -> Text -> Text
  | 0, text => text
  | _ + 1, [] => []
  | offset + 1, head :: tail => after (offset + 1 - head.utf8Size) tail

@[simp] theorem before_zero (text : Text) : before 0 text = [] := by
  cases text <;> rfl

@[simp] theorem after_zero (text : Text) : after 0 text = text := by
  cases text <;> rfl

theorem before_append_after (offset : Nat) (text : Text) :
    before offset text ++ after offset text = text := by
  induction text generalizing offset with
  | nil => cases offset <;> rfl
  | cons head tail ih =>
      cases offset with
      | zero => simp
      | succ offset => simp [before, after, ih]

/-- An offset is a boundary when no character straddles it and the text reaches it. -/
def IsBoundary (offset : Nat) (text : Text) : Prop :=
  size (before offset text) = offset

instance (offset : Nat) (text : Text) : Decidable (IsBoundary offset text) :=
  inferInstanceAs (Decidable (_ = _))

/-- The characters that start in the half-open byte range. -/
def slice (start stop : Nat) (text : Text) : Text :=
  before (stop - start) (after start text)

/-- The number of line feeds. -/
def lineFeeds (text : Text) : Nat :=
  text.count '\n'

/-- The text starts with the given characters. -/
def opensWith (opener text : Text) : Bool :=
  opener.isPrefixOf text

/-- Words are compared as strings, so that they can be looked up in word lists. -/
def toWord (text : Text) : String :=
  String.ofList text

end Text
end Lexis
