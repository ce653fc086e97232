import Lexis.Proofs.Text.WholeLines

namespace Lexis
namespace Text

/-!
Boundaries between characters.

A byte offset that the text reaches is a boundary, and then it cuts the text
in two (`isBoundary_iff`), or it falls inside one of its characters
(`splitsCharacter_iff`).  Where a text is cut, the lines in front of the line
it is cut in begin and end in front of the cut.  The start of a line is itself a
boundary, so lines can be cut out of a text by their bytes (`slice_lines`).
-/

variable {text : Text}

theorem before_size_append (front rest : Text) : before (size front) (front ++ rest) = front := by
  induction front with
  | nil => simp
  | cons head tail ih =>
      obtain ⟨offset, same⟩ : exists offset, size (head :: tail) = offset + 1 :=
        Nat.exists_eq_succ_of_ne_zero (Nat.ne_of_gt (size_pos (List.cons_ne_nil head tail)))
      have remaining : offset + 1 - head.utf8Size = size tail := by
        rw [← same, size_cons, Nat.add_sub_cancel_left]
      rw [same, List.cons_append, before, remaining, ih]

/-- Behind as many bytes as the front has, what lies behind the front begins. -/
theorem after_size_append (front rest : Text) : after (size front) (front ++ rest) = rest := by
  have parts := before_append_after (size front) (front ++ rest)
  rw [before_size_append] at parts
  exact List.append_cancel_left parts

theorem slice_between (front piece back : Text) :
    slice (size front) (size front + size piece) (front ++ (piece ++ back)) = piece := by
  rw [slice, after_size_append, Nat.add_sub_cancel_left, before_size_append]

/-- What lies before an offset is the beginning of what lies before a later one. -/
theorem before_isPrefix {start stop : Nat} (ordered : start ≤ stop) (text : Text) :
    before start text <+: before stop text := by
  induction text generalizing start stop with
  | nil =>
      cases start with
      | zero => exact List.nil_prefix
      | succ start => exact List.nil_prefix
  | cons head tail ih =>
      cases start with
      | zero => exact List.nil_prefix
      | succ start =>
          have positive : 0 < stop := Nat.lt_of_lt_of_le start.succ_pos ordered
          obtain ⟨stop, rfl⟩ := Nat.exists_eq_add_one_of_ne_zero (Nat.ne_of_gt positive)
          have rest := ih (Nat.sub_le_sub_right ordered head.utf8Size)
          exact List.cons_prefix_cons.mpr ⟨rfl, rest⟩

/-! ## Cuts -/

/-- A boundary cuts the text in two. -/
theorem isBoundary_iff {offset : Nat} :
    IsBoundary offset text ↔ exists front back, text = front ++ back ∧ offset = size front := by
  constructor
  · intro boundary
    exact ⟨before offset text, after offset text, (before_append_after offset text).symm,
      boundary.symm⟩
  · rintro ⟨front, back, rfl, rfl⟩
    rw [IsBoundary, before_size_append]

theorem IsBoundary.le_size {offset : Nat} (boundary : IsBoundary offset text) :
    offset ≤ size text := by
  rcases isBoundary_iff.mp boundary with ⟨front, back, rfl, rfl⟩
  rw [size_append]
  exact Nat.le_add_right _ _

theorem IsBoundary.append_right {offset : Nat} (boundary : IsBoundary offset text) (more : Text) :
    IsBoundary offset (text ++ more) := by
  rcases isBoundary_iff.mp boundary with ⟨front, back, rfl, same⟩
  exact isBoundary_iff.mpr ⟨front, back ++ more, List.append_assoc _ _ _, same⟩

theorem IsBoundary.append_left {offset : Nat} (boundary : IsBoundary offset text) (front : Text) :
    IsBoundary (size front + offset) (front ++ text) := by
  rcases isBoundary_iff.mp boundary with ⟨first, back, rfl, rfl⟩
  exact isBoundary_iff.mpr
    ⟨front ++ first, back, (List.append_assoc _ _ _).symm, (size_append _ _).symm⟩

/-- The offset falls between two bytes of one character. -/
def SplitsCharacter (offset : Nat) (text : Text) : Prop :=
  exists front head back, text = front ++ head :: back ∧
    size front < offset ∧ offset < size front + head.utf8Size

theorem before_of_inside {offset : Nat} {front back : Text} {head : Char}
    (lower : size front < offset) (upper : offset ≤ size front + head.utf8Size) :
    before offset (front ++ head :: back) = front ++ [head] := by
  induction front generalizing offset with
  | nil =>
      obtain ⟨offset, rfl⟩ := Nat.exists_eq_succ_of_ne_zero (Nat.ne_of_gt lower)
      have ended : offset + 1 - head.utf8Size = 0 := by
        rw [size_nil, Nat.zero_add] at upper
        exact Nat.sub_eq_zero_of_le upper
      rw [List.nil_append, before, ended, before_zero, List.nil_append]
  | cons first front ih =>
      obtain ⟨offset, rfl⟩ :=
        Nat.exists_eq_succ_of_ne_zero (Nat.ne_of_gt (Nat.lt_of_le_of_lt (Nat.zero_le _) lower))
      rw [size_cons] at lower upper
      have rest : before (offset + 1 - first.utf8Size) (front ++ head :: back) = front ++ [head] :=
        ih (by omega) (by omega)
      rw [List.cons_append, before, rest, List.cons_append]

/-- An offset that the text reaches is a boundary unless it falls inside a character. -/
theorem splitsCharacter_iff {offset : Nat} (inside : offset ≤ size text) :
    SplitsCharacter offset text ↔ ¬ IsBoundary offset text := by
  constructor
  · rintro ⟨front, head, back, rfl, lower, upper⟩ boundary
    rw [IsBoundary, before_of_inside lower (Nat.le_of_lt upper), size_append, size_cons, size_nil,
      Nat.add_zero] at boundary
    exact Nat.ne_of_lt upper boundary.symm
  · intro split
    induction text generalizing offset with
    | nil =>
        obtain rfl := Nat.le_zero.mp inside
        exact absurd rfl split
    | cons head tail ih =>
        cases offset with
        | zero => exact absurd (by rw [IsBoundary, before_zero, size_nil]) split
        | succ offset =>
            rw [size_cons] at inside
            by_cases within : offset + 1 < head.utf8Size
            · exact ⟨[], head, tail, rfl, Nat.succ_pos offset, by simpa using within⟩
            · have behind : ¬ IsBoundary (offset + 1 - head.utf8Size) tail := by
                intro boundary
                apply split
                rw [IsBoundary] at boundary ⊢
                rw [before, size_cons, boundary]
                omega
              rcases ih (by omega) behind with ⟨front, other, back, rfl, lower, upper⟩
              refine ⟨head :: front, other, back, rfl, ?_, ?_⟩
              · rw [size_cons]
                omega
              · rw [size_cons]
                omega

/-! ## The line of an offset -/

theorem lineOf_size_append (front rest : Text) :
    lineOf (size front) (front ++ rest) = lineFeeds front := by
  rw [lineOf, before_size_append]

theorem lineOf_mono {start stop : Nat} (ordered : start ≤ stop) (text : Text) :
    lineOf start text ≤ lineOf stop text :=
  (before_isPrefix ordered text).sublist.count_le '\n'

theorem lineStart_mono {first second : Nat} (ordered : first ≤ second) (text : Text) :
    lineStart first text ≤ lineStart second text := by
  obtain ⟨number, rfl⟩ := Nat.exists_eq_add_of_le ordered
  rw [lineStart_add]
  exact Nat.le_add_right _ _

/-- The line of a boundary starts no later than there. -/
theorem IsBoundary.lineStart_le {offset : Nat} (boundary : IsBoundary offset text) :
    lineStart (lineOf offset text) text ≤ offset := by
  rcases isBoundary_iff.mp boundary with ⟨front, back, rfl, rfl⟩
  have parts := congrArg List.flatten (List.dropLast_concat_getLast (lines_ne_nil front))
  rw [flatten_lines, List.flatten_append] at parts
  have sizes := congrArg size parts
  rw [size_append] at sizes
  rw [lineOf_size_append, lineStart, take_lines_append]
  exact sizes ▸ Nat.le_add_right _ _

/-- The line behind that of a boundary starts no earlier than there. -/
theorem IsBoundary.le_lineStart {offset : Nat} (boundary : IsBoundary offset text) :
    offset ≤ lineStart (lineOf offset text + 1) text := by
  rcases isBoundary_iff.mp boundary with ⟨front, back, rfl, rfl⟩
  have whole := lineStart_add_size (front ++ back) (lineFeeds front + 1)
  have rest : (lines (front ++ back)).drop (lineFeeds front + 1) = (lines back).drop 1 :=
    drop_lines_append front back 0
  have behind := lineStart_add_size back 1
  rw [rest, size_append] at whole
  rw [lineOf_size_append]
  omega

/-! ## Cuts between lines -/

/-- Before the start of a line lie the lines before it. -/
theorem before_lineStart (line : Nat) (text : Text) :
    before (lineStart line text) text = ((lines text).take line).flatten := by
  have cut := before_size_append ((lines text).take line).flatten ((lines text).drop line).flatten
  rw [← List.flatten_append, List.take_append_drop, flatten_lines] at cut
  exact cut

theorem after_lineStart (line : Nat) (text : Text) :
    after (lineStart line text) text = ((lines text).drop line).flatten := by
  have cut := after_size_append ((lines text).take line).flatten ((lines text).drop line).flatten
  rw [← List.flatten_append, List.take_append_drop, flatten_lines] at cut
  exact cut

theorem isBoundary_lineStart (line : Nat) (text : Text) : IsBoundary (lineStart line text) text := by
  rw [IsBoundary, before_lineStart, lineStart]

/-- Between the starts of two lines lie the lines from the one up to the other. -/
theorem slice_lines (first number : Nat) (text : Text) :
    slice (lineStart first text) (lineStart (first + number) text) text =
      (((lines text).drop first).take number).flatten := by
  have cut := slice_between ((lines text).take first).flatten
    (((lines text).drop first).take number).flatten ((lines text).drop (first + number)).flatten
  rw [← eq_flatten_lines] at cut
  rw [lineStart_add]
  exact cut

end Text
end Lexis
