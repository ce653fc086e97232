import Lexis.Document.Edit
import Lexis.Proofs.Text.Boundary

namespace Lexis

/-!
What an edit leaves of a text.

An edit is accepted if its bounds are in the text and fall between characters
(`error?_eq_none_iff`); otherwise the first of them that does not is what it is
refused for (`error?_eq_some_iff`).  An accepted edit divides the text into the
characters in front of it, those it removes and those behind it, and the lines
in front and behind are the same before and after the edit.
-/

namespace Edit

/-! ## Edits that fit a text -/

/-- The edit is refused for this reason. -/
inductive Refused (edit : Edit) (text : Text) : EditError -> Prop
  | outOfBounds (outside : edit.span.stop < edit.span.start ∨ text.size < edit.span.stop) :
      Refused edit text (.outOfBounds edit.span text.size)
  | start (ordered : edit.span.start ≤ edit.span.stop) (inside : edit.span.stop ≤ text.size)
      (splits : text.SplitsCharacter edit.span.start) :
      Refused edit text (.notBoundary edit.span.start)
  | stop (ordered : edit.span.start ≤ edit.span.stop) (inside : edit.span.stop ≤ text.size)
      (whole : ¬ text.SplitsCharacter edit.span.start)
      (splits : text.SplitsCharacter edit.span.stop) :
      Refused edit text (.notBoundary edit.span.stop)

/-- The bounds of the edit are in the text, and none of them is inside a character. -/
structure Fits (edit : Edit) (text : Text) : Prop where
  ordered : edit.span.start ≤ edit.span.stop
  inside : edit.span.stop ≤ text.size
  start : ¬ text.SplitsCharacter edit.span.start
  stop : ¬ text.SplitsCharacter edit.span.stop

/-- An edit that does not fit a text is refused for one reason or another. -/
theorem fits_or_refused (edit : Edit) (text : Text) :
    edit.Fits text ∨ exists error, edit.Refused text error := by
  by_cases outside : edit.span.stop < edit.span.start ∨ text.size < edit.span.stop
  · exact Or.inr ⟨_, .outOfBounds outside⟩
  simp only [not_or, Nat.not_lt] at outside
  rcases outside with ⟨ordered, inside⟩
  by_cases startSplits : text.SplitsCharacter edit.span.start
  · exact Or.inr ⟨_, .start ordered inside startSplits⟩
  by_cases stopSplits : text.SplitsCharacter edit.span.stop
  · exact Or.inr ⟨_, .stop ordered inside startSplits stopSplits⟩
  · exact Or.inl ⟨ordered, inside, startSplits, stopSplits⟩

/-- An edit with its bounds in the text is checked at the start and then at the stop. -/
theorem error?_of_ordered {edit : Edit} {text : Text} (ordered : edit.span.start ≤ edit.span.stop)
    (inside : edit.span.stop ≤ text.size) :
    edit.error? text =
      if ¬ text.IsBoundary edit.span.start then some (.notBoundary edit.span.start)
      else if ¬ text.IsBoundary edit.span.stop then some (.notBoundary edit.span.stop)
      else none := by
  have inBounds : ¬ (edit.span.stop < edit.span.start || text.size < edit.span.stop) = true := by
    simp only [Bool.or_eq_true, decide_eq_true_eq]
    omega
  simp only [error?]
  rw [if_neg inBounds]

theorem Fits.error?_eq {edit : Edit} {text : Text} (fits : edit.Fits text) :
    edit.error? text = none := by
  rcases fits with ⟨ordered, inside, start, stop⟩
  rw [Text.splitsCharacter_iff (Nat.le_trans ordered inside)] at start
  rw [Text.splitsCharacter_iff inside] at stop
  rw [error?_of_ordered ordered inside, if_neg start, if_neg stop]

theorem Refused.error?_eq {edit : Edit} {text : Text} {error : EditError}
    (refused : edit.Refused text error) : edit.error? text = some error := by
  cases refused with
  | outOfBounds outside =>
      simp only [error?]
      rw [if_pos (by simpa using outside)]
  | start ordered inside splits =>
      rw [Text.splitsCharacter_iff (Nat.le_trans ordered inside)] at splits
      rw [error?_of_ordered ordered inside, if_pos splits]
  | stop ordered inside whole splits =>
      rw [Text.splitsCharacter_iff (Nat.le_trans ordered inside)] at whole
      rw [Text.splitsCharacter_iff inside] at splits
      rw [error?_of_ordered ordered inside, if_neg whole, if_pos splits]

theorem error?_eq_none_iff {edit : Edit} {text : Text} :
    edit.error? text = none ↔ edit.Fits text := by
  refine ⟨fun accepted => ?_, Fits.error?_eq⟩
  rcases fits_or_refused edit text with fits | ⟨error, refused⟩
  · exact fits
  · exact absurd (refused.error?_eq.symm.trans accepted) (by simp)

theorem error?_eq_some_iff {edit : Edit} {text : Text} {error : EditError} :
    edit.error? text = some error ↔ edit.Refused text error := by
  refine ⟨fun found => ?_, Refused.error?_eq⟩
  rcases fits_or_refused edit text with fits | ⟨other, refused⟩
  · exact absurd (fits.error?_eq.symm.trans found) (by simp)
  · rcases Option.some.inj (refused.error?_eq.symm.trans found) with rfl
    exact refused

instance (edit : Edit) (text : Text) : Decidable (edit.Fits text) :=
  decidable_of_iff (edit.error? text = none) error?_eq_none_iff

/-! ## The parts of an edited text -/

/-- An accepted edit has its bounds in order, at boundaries of the text. -/
theorem bounds_of_accepted {edit : Edit} {text : Text} (accepted : edit.error? text = none) :
    edit.span.start ≤ edit.span.stop ∧ text.IsBoundary edit.span.start ∧
      text.IsBoundary edit.span.stop := by
  rcases error?_eq_none_iff.mp accepted with ⟨ordered, inside, start, stop⟩
  rw [Text.splitsCharacter_iff (Nat.le_trans ordered inside)] at start
  rw [Text.splitsCharacter_iff inside] at stop
  exact ⟨ordered, Decidable.not_not.mp start, Decidable.not_not.mp stop⟩

/--
The edit turns the old text into the new one between the characters in front of
it and those behind it, and removes others.
-/
structure Divides (edit : Edit) (old new front removed back : Text) : Prop where
  old_eq : old = front ++ (removed ++ back)
  new_eq : new = front ++ (edit.text ++ back)
  span_eq : edit.span = { start := front.size, stop := front.size + removed.size }

theorem divides_of_accepted {edit : Edit} {text : Text} (accepted : edit.error? text = none) :
    exists front removed back, edit.Divides text (edit.applyTo text) front removed back := by
  rcases bounds_of_accepted accepted with ⟨ordered, startBoundary, stopBoundary⟩
  rcases Text.before_isPrefix ordered text with ⟨removed, parts⟩
  have sizes := congrArg Text.size parts
  rw [Text.size_append, startBoundary, stopBoundary] at sizes
  refine ⟨text.before edit.span.start, removed, text.after edit.span.stop, ?_, ?_, ?_⟩
  · rw [← List.append_assoc, parts, Text.before_append_after]
  · rw [applyTo, List.append_assoc]
  · rw [startBoundary, sizes]

namespace Divides

variable {edit : Edit} {old new front removed back : Text}

theorem delta_eq (divides : edit.Divides old new front removed back) :
    edit.delta = (new.size : Int) - old.size := by
  rcases divides with ⟨rfl, rfl, span⟩
  simp only [delta, Span.length, span, Text.size_append]
  omega

theorem length_lines_old (divides : edit.Divides old new front removed back) :
    old.lines.length = front.lineFeeds + removed.lineFeeds + back.lineFeeds + 1 := by
  rcases divides with ⟨rfl, -, -⟩
  rw [Text.length_lines, Text.lineFeeds_append, Text.lineFeeds_append, ← Nat.add_assoc]

theorem length_lines_new (divides : edit.Divides old new front removed back) :
    new.lines.length = front.lineFeeds + edit.text.lineFeeds + back.lineFeeds + 1 := by
  rcases divides with ⟨-, rfl, -⟩
  rw [Text.length_lines, Text.lineFeeds_append, Text.lineFeeds_append, ← Nat.add_assoc]

/-- The edit begins in the same line of both texts. -/
theorem lineOf_start_old (divides : edit.Divides old new front removed back) :
    old.lineOf edit.span.start = front.lineFeeds := by
  rcases divides with ⟨rfl, -, span⟩
  rw [span, Text.lineOf_size_append]

theorem lineOf_start (divides : edit.Divides old new front removed back) :
    new.lineOf edit.inserted.start = front.lineFeeds := by
  rcases divides with ⟨-, rfl, span⟩
  rw [inserted, span, Text.lineOf_size_append]

theorem lineOf_stop (divides : edit.Divides old new front removed back) :
    new.lineOf edit.inserted.stop = front.lineFeeds + edit.text.lineFeeds := by
  rcases divides with ⟨-, rfl, span⟩
  have stop : edit.inserted.stop = (front ++ edit.text).size := by
    rw [inserted, span, Text.size_append]
  rw [stop, ← List.append_assoc, Text.lineOf_size_append, Text.lineFeeds_append]

theorem isBoundary_start (divides : edit.Divides old new front removed back) :
    new.IsBoundary edit.inserted.start := by
  rcases divides with ⟨-, rfl, span⟩
  exact Text.isBoundary_iff.mpr ⟨front, edit.text ++ back, rfl, by rw [inserted, span]⟩

theorem isBoundary_stop (divides : edit.Divides old new front removed back) :
    new.IsBoundary edit.inserted.stop := by
  rcases divides with ⟨-, rfl, span⟩
  refine Text.isBoundary_iff.mpr ⟨front ++ edit.text, back, (List.append_assoc _ _ _).symm, ?_⟩
  rw [inserted, span, Text.size_append]

/-- The lines before the edited ones stay. -/
theorem take_lines (divides : edit.Divides old new front removed back) :
    old.lines.take front.lineFeeds = new.lines.take front.lineFeeds := by
  rcases divides with ⟨rfl, rfl, -⟩
  rw [Text.take_lines_append, Text.take_lines_append]

/-- The line that the edit begins in starts where it did. -/
theorem lineStart_eq (divides : edit.Divides old new front removed back) :
    old.lineStart front.lineFeeds = new.lineStart front.lineFeeds := by
  rw [Text.lineStart, Text.lineStart, divides.take_lines]

/-- The lines behind the edited ones stay, by however many the edited ones have become more. -/
theorem drop_lines (divides : edit.Divides old new front removed back) (number : Nat) :
    old.lines.drop (front.lineFeeds + removed.lineFeeds + 1 + number) =
      new.lines.drop (front.lineFeeds + edit.text.lineFeeds + 1 + number) := by
  rcases divides with ⟨rfl, rfl, -⟩
  rw [← List.append_assoc, ← List.append_assoc, ← Text.lineFeeds_append,
    ← Text.lineFeeds_append, Text.drop_lines_append, Text.drop_lines_append]

/-- A line behind the edited ones was one of the old text, and the old text goes on as the new. -/
theorem exists_old_line (divides : edit.Divides old new front removed back) {line : Nat}
    (behind : front.lineFeeds + edit.text.lineFeeds < line) (inside : line ≤ new.lines.length) :
    exists oldLine : Nat, (oldLine : Int) = line - ((new.lines.length : Int) - old.lines.length) ∧
      front.lineFeeds + removed.lineFeeds < oldLine ∧ oldLine ≤ old.lines.length ∧
      old.lines.drop oldLine = new.lines.drop line := by
  have oldLength := divides.length_lines_old
  have newLength := divides.length_lines_new
  rcases Nat.exists_eq_add_of_le (Nat.succ_le_of_lt behind) with ⟨number, rfl⟩
  exact ⟨front.lineFeeds + removed.lineFeeds + 1 + number, by omega, by omega, by omega,
    divides.drop_lines number⟩

end Divides

end Edit
end Lexis
