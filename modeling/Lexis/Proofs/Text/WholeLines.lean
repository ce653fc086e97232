import Lexis.Text.Lines

namespace Lexis
namespace Text

/-!
Texts that end where a line ends.

A text of whole lines is empty or ends with a line feed.  What follows it
begins a line of its own, so a rule that looks only for characters of one line
sees the same on such a text as on a longer one.  The lines of a text with more
text behind it are then the lines of the two texts one after the other.
-/

/-- The text is empty or its last character is a line feed. -/
def IsWholeLines (text : Text) : Prop :=
  text = [] ∨ text.getLast? = some '\n'

instance (text : Text) : Decidable (IsWholeLines text) :=
  inferInstanceAs (Decidable (_ ∨ _))

theorem isWholeLines_nil : IsWholeLines [] :=
  Or.inl rfl

/-- A text of whole lines that is not empty ends with a line feed. -/
theorem IsWholeLines.getLast? {text : Text} (whole : IsWholeLines text) (nonempty : text ≠ []) :
    List.getLast? text = some '\n' :=
  whole.resolve_left nonempty

theorem IsWholeLines.feed_mem {text : Text} (whole : IsWholeLines text) (nonempty : text ≠ []) :
    '\n' ∈ text :=
  List.mem_of_getLast? (whole.getLast? nonempty)

/-- What is left of whole lines behind any place is again whole lines. -/
theorem IsWholeLines.right {front text : Text} (whole : IsWholeLines (front ++ text)) :
    IsWholeLines text := by
  by_cases empty : text = []
  · exact Or.inl empty
  · have last := whole.getLast? (by simp [empty])
    rw [List.getLast?_append, List.getLast?_eq_some_getLast empty, Option.some_or] at last
    exact Or.inr ((List.getLast?_eq_some_getLast empty).trans last)

theorem IsWholeLines.tail {head : Char} {tail : Text} (whole : IsWholeLines (head :: tail)) :
    IsWholeLines tail :=
  IsWholeLines.right (show IsWholeLines ([head] ++ tail) from whole)

/-- A character that ends a text of whole lines is a line feed. -/
theorem IsWholeLines.head_eq {head : Char} (whole : IsWholeLines [head]) : head = '\n' := by
  simpa using whole.getLast? (by simp)

theorem IsWholeLines.append {front text : Text} (frontWhole : IsWholeLines front)
    (whole : IsWholeLines text) : IsWholeLines (front ++ text) := by
  rcases whole with rfl | last
  · simpa using frontWhole
  · exact Or.inr (by simp [last])

/-- A character behind which only whole lines are left is followed by something or a line feed. -/
theorem IsWholeLines.tail_ne_nil {head : Char} {tail : Text} (whole : IsWholeLines (head :: tail))
    (other : head ≠ '\n') : tail ≠ [] := by
  rintro rfl
  exact other whole.head_eq

/-- Behind an opener without a line feed the lines go on, and at least their end is left. -/
theorem IsWholeLines.behind {opener text : Text} (whole : IsWholeLines (opener ++ text))
    (present : opener ≠ []) (noFeed : '\n' ∉ opener) : IsWholeLines text ∧ text ≠ [] := by
  constructor
  · exact whole.right
  · rintro rfl
    rw [List.append_nil] at whole
    exact noFeed (whole.feed_mem present)

/-! ## Openers before a line feed -/

/-- Text may be added behind whole lines, and no text anywhere. -/
def Seam (text more : Text) : Prop :=
  text.IsWholeLines ∨ more = []

/--
An opener is recognised without regard to what follows the text, unless the text
is only the beginning of one.
-/
theorem opensWith_append_of_prefix {opener text : Text} (more : Text)
    (whole : text <+: opener -> text = opener) :
    opensWith opener (text ++ more) = opensWith opener text := by
  apply Bool.eq_iff_iff.mpr
  simp only [opensWith, List.isPrefixOf_iff_prefix]
  constructor
  · intro opens
    rcases List.prefix_or_prefix_of_prefix opens (List.prefix_append text more) with
      inText | inOpener
    · exact inText
    · rcases whole inOpener with rfl
      exact List.prefix_rfl
  · exact fun opens => opens.trans (List.prefix_append text more)

theorem opensWith_append_of_length {opener text : Text} (more : Text)
    (short : opener.length ≤ text.length) :
    opensWith opener (text ++ more) = opensWith opener text :=
  opensWith_append_of_prefix more fun inOpener => inOpener.eq_of_length_le short

/-- The last character of the text, if it has one, is none of these. -/
def EndsOutside (set : List Char) (text : Text) : Prop :=
  forall last, text.getLast? = some last -> last ∉ set

theorem EndsOutside.right {set : List Char} {front text : Text}
    (outside : EndsOutside set (front ++ text)) : EndsOutside set text := by
  intro last isLast
  apply outside last
  rw [List.getLast?_append, isLast, Option.some_or]

theorem EndsOutside.tail {set : List Char} {head : Char} {tail : Text}
    (outside : EndsOutside set (head :: tail)) : EndsOutside set tail :=
  EndsOutside.right (show EndsOutside set ([head] ++ tail) from outside)

theorem IsWholeLines.endsOutside {set : List Char} {text : Text} (whole : IsWholeLines text)
    (nonempty : text ≠ []) (noFeed : '\n' ∉ set) : EndsOutside set text := by
  intro last isLast inside
  rcases Option.some.inj ((whole.getLast? nonempty).symm.trans isLast) with rfl
  exact noFeed inside

/-- It is enough that the text does not end with a character of the opener before its last. -/
theorem opensWith_append {opener text : Text} (more : Text) (nonempty : text ≠ [])
    (outside : EndsOutside opener.dropLast text) :
    opensWith opener (text ++ more) = opensWith opener text := by
  apply opensWith_append_of_prefix
  rintro ⟨missing, rfl⟩
  by_cases none : missing = []
  · rw [none, List.append_nil]
  · have last := List.getLast?_eq_some_getLast nonempty
    apply absurd _ (outside _ last)
    rw [List.dropLast_append_of_ne_nil none]
    exact List.mem_append_left _ (List.getLast_mem nonempty)

/-- An opener without a line feed is recognised within whole lines. -/
theorem IsWholeLines.opensWith_append {opener text : Text} (whole : IsWholeLines text)
    (nonempty : text ≠ []) (more : Text) (noFeed : '\n' ∉ opener) :
    opensWith opener (text ++ more) = opensWith opener text :=
  Text.opensWith_append more nonempty
    (whole.endsOutside nonempty fun inside => noFeed (List.dropLast_subset opener inside))

theorem Seam.opensWith_append {head : Char} {tail more : Text} (seam : Seam (head :: tail) more)
    (opener : Text) (noFeed : '\n' ∉ opener) :
    opensWith opener (head :: (tail ++ more)) = opensWith opener (head :: tail) := by
  rcases seam with whole | rfl
  · exact whole.opensWith_append (by simp) more noFeed
  · rw [List.append_nil]

/-! ## Lines one after the other -/

/-- Every text is read line by line: a last line without a line feed, or a line before more text. -/
theorem byLines {motive : Text -> Prop}
    (last : forall line, '\n' ∉ line -> motive line)
    (line : forall line more, '\n' ∉ line -> motive more -> motive (line ++ '\n' :: more))
    (text : Text) : motive text := by
  suffices ahead : forall line, '\n' ∉ line -> motive (line ++ text) from ahead [] (by simp)
  induction text with
  | nil => intro front noFeed; simpa using last front noFeed
  | cons head tail ih =>
      intro front noFeed
      by_cases feed : head = '\n'
      · subst feed
        exact line front tail noFeed (ih [] (by simp))
      · have longer : '\n' ∉ front ++ [head] := by
          simp only [List.mem_append, List.mem_singleton, not_or]
          exact ⟨noFeed, fun same => feed same.symm⟩
        simpa using ih (front ++ [head]) longer

theorem lines_of_noFeed {text : Text} (noFeed : '\n' ∉ text) : lines text = [text] := by
  induction text with
  | nil => rfl
  | cons head tail ih =>
      have parts := List.ne_and_not_mem_of_not_mem_cons noFeed
      simp [lines, parts.1.symm, ih parts.2]

theorem lines_line {line : Text} (more : Text) (noFeed : '\n' ∉ line) :
    lines (line ++ '\n' :: more) = (line ++ ['\n']) :: lines more := by
  induction line with
  | nil => simp [lines]
  | cons head tail ih =>
      have parts := List.ne_and_not_mem_of_not_mem_cons noFeed
      simp [lines, parts.1.symm, ih parts.2]

@[simp] theorem lineFeeds_append (front text : Text) :
    lineFeeds (front ++ text) = lineFeeds front + lineFeeds text :=
  List.count_append

theorem lineFeeds_le_size (text : Text) : lineFeeds text ≤ size text := by
  induction text with
  | nil => simp [lineFeeds]
  | cons head tail ih =>
      have := head.utf8Size_pos
      simp only [lineFeeds, List.count_cons, size_cons] at ih ⊢
      split <;> omega

theorem length_lines_le_size (text : Text) : (lines text).length ≤ size text + 1 := by
  rw [length_lines]
  exact Nat.succ_le_succ (lineFeeds_le_size text)

/-- All lines but the last end with their line feed. -/
theorem isWholeLines_of_mem_dropLast_lines {text line : Text}
    (member : line ∈ (lines text).dropLast) : IsWholeLines line := by
  induction text using byLines with
  | last body noFeed => simp [lines_of_noFeed noFeed] at member
  | line body more noFeed ih =>
      rw [lines_line more noFeed, List.dropLast_cons_of_ne_nil (lines_ne_nil more)] at member
      rcases List.mem_cons.mp member with rfl | member
      · exact Or.inr (by simp)
      · exact ih member

theorem isWholeLines_flatten {lines : List Text}
    (whole : forall line, line ∈ lines -> IsWholeLines line) : IsWholeLines lines.flatten := by
  induction lines with
  | nil => exact isWholeLines_nil
  | cons line lines ih =>
      have rest := ih fun line member => whole line (List.mem_cons_of_mem _ member)
      exact (whole line List.mem_cons_self).append rest

/-- Only the last line is empty, if any. -/
theorem ne_nil_of_mem_dropLast_lines {text line : Text}
    (member : line ∈ (lines text).dropLast) : line ≠ [] := by
  induction text using byLines with
  | last body noFeed => simp [lines_of_noFeed noFeed] at member
  | line body more noFeed ih =>
      rw [lines_line more noFeed, List.dropLast_cons_of_ne_nil (lines_ne_nil more)] at member
      rcases List.mem_cons.mp member with rfl | member
      · simp
      · exact ih member

/-- The line in which a text ends goes on with the first line of the text behind it. -/
theorem lines_append (front text : Text) :
    lines (front ++ text) =
      (lines front).dropLast ++
        (lines text).modifyHead ((lines front).getLast (lines_ne_nil front) ++ ·) := by
  induction front using byLines with
  | last body noFeed =>
      simp only [lines_of_noFeed noFeed, List.dropLast_singleton, List.nil_append,
        List.getLast_singleton]
      induction body with
      | nil =>
          simp only [List.nil_append]
          cases lines text <;> rfl
      | cons head tail ih =>
          have parts := List.ne_and_not_mem_of_not_mem_cons noFeed
          simp only [List.cons_append, lines, parts.1.symm, if_false, ih parts.2]
          cases lines text <;> rfl
  | line body more noFeed ih =>
      have split : body ++ '\n' :: more ++ text = body ++ '\n' :: (more ++ text) := by simp
      have present := lines_ne_nil more
      simp only [split, lines_line _ noFeed, ih, List.dropLast_cons_of_ne_nil present,
        List.getLast_cons present, List.cons_append]

/-- The lines that a text has before the line it ends in do not depend on what follows. -/
theorem take_lines_append (front text : Text) :
    (lines (front ++ text)).take (lineFeeds front) = (lines front).dropLast := by
  have count : (lines front).dropLast.length = lineFeeds front := by
    simp [length_lines]
  rw [lines_append, List.take_append_of_le_length (by omega), ← count, List.take_length]

/-- The lines behind the one that a text ends in do not depend on that text. -/
theorem drop_lines_append (front text : Text) (number : Nat) :
    (lines (front ++ text)).drop (lineFeeds front + 1 + number) =
      (lines text).drop (1 + number) := by
  have count : (lines front).dropLast.length = lineFeeds front := by
    simp [length_lines]
  rw [lines_append, Nat.add_assoc, ← count, List.drop_append, Nat.add_comm 1 number]
  cases lines text with
  | nil => simp
  | cons line lines => simp

/-! ## Ranges of lines -/

theorem mem_dropLast_of_mem_take {lines : List Text} {number : Nat} {line : Text}
    (short : number < lines.length) (member : line ∈ lines.take number) :
    line ∈ lines.dropLast := by
  rw [List.dropLast_eq_take]
  exact (List.take_subset_take_left lines (by omega)) member

/-- The lines before the last are whole lines. -/
theorem isWholeLines_take_lines {text : Text} {number : Nat}
    (short : number < (lines text).length) :
    forall line, line ∈ (lines text).take number -> IsWholeLines line :=
  fun _ member => isWholeLines_of_mem_dropLast_lines (mem_dropLast_of_mem_take short member)

/-- Of the lines from one on, too, only the last may go on. -/
theorem isWholeLines_of_mem_dropLast_drop {text : Text} {first : Nat}
    (inside : first < (lines text).length) {line : Text}
    (member : line ∈ ((lines text).drop first).dropLast) : IsWholeLines line := by
  have present : (lines text).drop first ≠ [] := by
    rw [← List.length_pos_iff, List.length_drop]
    omega
  have inAll : line ∈ (lines text).dropLast := by
    rw [← List.take_append_drop first (lines text), List.dropLast_append_of_ne_nil present]
    exact List.mem_append_right _ member
  exact isWholeLines_of_mem_dropLast_lines inAll

/-- A range of lines consists of whole lines, unless nothing is left behind it. -/
theorem isWholeLines_range (text : Text) (first : Nat) {number : Nat} (positive : 0 < number) :
    IsWholeLines (((lines text).drop first).take number).flatten ∧
        (((lines text).drop first).take number).flatten ≠ [] ∨
      ((lines text).drop (first + number)).flatten = [] := by
  by_cases short : first + number < (lines text).length
  · have inFront : forall line, line ∈ ((lines text).drop first).take number ->
        line ∈ (lines text).dropLast := by
      intro line member
      apply mem_dropLast_of_mem_take short
      rw [List.take_add]
      exact List.mem_append_right _ member
    refine Or.inl ⟨isWholeLines_flatten fun line member =>
      isWholeLines_of_mem_dropLast_lines (inFront line member), fun none => ?_⟩
    have present : ((lines text).drop first).take number ≠ [] := by
      rw [← List.length_pos_iff, List.length_take, List.length_drop]
      omega
    rcases List.exists_mem_of_ne_nil _ present with ⟨line, member⟩
    exact ne_nil_of_mem_dropLast_lines (inFront line member)
      (List.flatten_eq_nil_iff.mp none line member)
  · exact Or.inr (by rw [List.drop_of_length_le (Nat.le_of_not_lt short), List.flatten_nil])

/-- A text is the lines before a range, those in it and those behind it. -/
theorem eq_flatten_lines (text : Text) (first number : Nat) :
    text = ((lines text).take first).flatten ++ ((((lines text).drop first).take number).flatten ++
      ((lines text).drop (first + number)).flatten) := by
  have parts := flatten_lines text
  rw [← List.take_append_drop first (lines text),
    ← List.take_append_drop number ((lines text).drop first), List.drop_drop,
    List.flatten_append, List.flatten_append] at parts
  exact parts.symm

theorem lineStart_add (text : Text) (first number : Nat) :
    lineStart (first + number) text =
      lineStart first text + size (((lines text).drop first).take number).flatten := by
  rw [lineStart, lineStart, List.take_add, List.flatten_append, size_append]

theorem flatten_line {text : Text} {line : Nat} (inside : line < (lines text).length) :
    (((lines text).drop line).take 1).flatten = (lines text)[line] := by
  rw [List.drop_eq_getElem_cons inside, List.take_succ_cons, List.take_zero,
    List.flatten_singleton]

theorem lineStart_succ {text : Text} {line : Nat} (inside : line < (lines text).length) :
    lineStart (line + 1) text = lineStart line text + size (lines text)[line] := by
  rw [lineStart_add, flatten_line inside]

/-- A line that is not the last is not empty. -/
theorem lineStart_lt {text : Text} {line : Nat} (before : line + 1 < (lines text).length) :
    lineStart line text < lineStart (line + 1) text := by
  have inside : line < (lines text).dropLast.length := by
    rw [List.length_dropLast]
    omega
  have present : (lines text)[line] ≠ [] :=
    ne_nil_of_mem_dropLast_lines (List.getElem_dropLast inside ▸ List.getElem_mem inside)
  rw [lineStart_succ (Nat.lt_of_succ_lt before)]
  exact Nat.lt_add_of_pos_right (size_pos present)

theorem lineStart_add_size (text : Text) (line : Nat) :
    lineStart line text + size ((lines text).drop line).flatten = size text := by
  rw [lineStart, ← size_append, ← List.flatten_append, List.take_append_drop, flatten_lines]

/-- The line behind a line feed starts right behind it. -/
theorem lineStart_behind (front rest : Text) :
    lineStart (lineFeeds front + 1) (front ++ '\n' :: rest) = size front + 1 := by
  have behind := lineStart_add_size (front ++ '\n' :: rest) (lineFeeds front + 1)
  have others : (lines (front ++ '\n' :: rest)).drop (lineFeeds front + 1) = lines rest :=
    drop_lines_append front ('\n' :: rest) 0
  have feed : Char.utf8Size '\n' = 1 := rfl
  rw [others, flatten_lines, size_append, size_cons, feed] at behind
  omega

/-- Lines with the same text from there on are as far apart as the ends of their texts. -/
theorem lineStart_eq_of_drop_eq {old new : Text} {oldLine line : Nat}
    (same : (lines old).drop oldLine = (lines new).drop line) :
    (lineStart oldLine old : Int) = lineStart line new - ((size new : Int) - size old) := by
  have oldSize := lineStart_add_size old oldLine
  have newSize := lineStart_add_size new line
  rw [same] at oldSize
  omega

theorem lineStart_length_lines (text : Text) : lineStart (lines text).length text = size text := by
  rw [lineStart, List.take_length, flatten_lines]

theorem lineStart_le_size (line : Nat) (text : Text) : lineStart line text ≤ size text :=
  lineStart_add_size text line ▸ Nat.le_add_right _ _

theorem lineOf_lt (offset : Nat) (text : Text) : lineOf offset text < (lines text).length := by
  have parts := congrArg lineFeeds (before_append_after offset text)
  rw [lineFeeds_append] at parts
  rw [length_lines, lineOf]
  omega

end Text
end Lexis
