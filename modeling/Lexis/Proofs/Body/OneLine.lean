import Lexis.Proofs.Body

namespace Lexis

/-!
Strings on one line.

A string that is not multiline takes a line break only together with the
backslash before it (`Body.feedsEscaped_ofString`).  It stays open where the text
runs out in it, be it behind an escaped line break or within a line
(`Body.isOpen_ofString_iff`).
-/

namespace Text

/-- Every line feed stands directly behind a backslash. -/
def FeedsEscaped (text : Text) : Prop :=
  forall front behind, text = front ++ '\n' :: behind -> ['\\'] <:+ front

theorem FeedsEscaped.cons {head : Char} {tail : Text} (notFeed : head ≠ '\n')
    (escaped : FeedsEscaped tail) : FeedsEscaped (head :: tail) := by
  intro front behind parts
  cases front with
  | nil => exact absurd (List.cons.inj parts).1 notFeed
  | cons first front =>
      have inTail := (List.cons.inj parts).2
      exact (escaped front behind inTail).trans (List.suffix_cons first front)

theorem feedsEscaped_nil : FeedsEscaped [] :=
  fun _ _ parts => absurd parts (by simp)

theorem FeedsEscaped.escape {tail : Text} (character : Char) (escaped : FeedsEscaped tail) :
    FeedsEscaped ('\\' :: character :: tail) := by
  intro front behind parts
  rcases front with _ | ⟨first, _ | ⟨second, front⟩⟩
  · exact absurd (List.cons.inj parts).1 (by decide)
  · exact (List.cons.inj parts).1 ▸ List.suffix_rfl
  · have inTail := (List.cons.inj (List.cons.inj parts).2).2
    exact (escaped front behind inTail).trans (List.suffix_append [first, second] front)

end Text

namespace Body

variable {quote : Char} {text : Text}

theorem feedsEscaped_ofString (noFeed : quote ≠ '\n') (text : Text) :
    Text.FeedsEscaped (ofString quote false text).cut.taken := by
  generalize multiline : false = spans
  fun_induction ofString quote spans text with
  | case1 => exact Text.feedsEscaped_nil
  | case2 => exact Text.feedsEscaped_nil.cons (by decide)
  | case3 escaped rest ih => exact ih.escape escaped
  | case4 => exact Text.feedsEscaped_nil.cons noFeed
  | case5 tail notSingle => exact absurd (by simp [← multiline]) notSingle
  | case6 tail notSingle => exact absurd (by simp [← multiline]) notSingle
  | case7 => exact Text.feedsEscaped_nil
  | case8 head tail notEscape notQuote goesOn ih =>
      refine ih.cons ?_
      rintro rfl
      exact goesOn (by simp [← multiline, isLineBreak])

/-- The text is what a string on one line goes on with, and the string goes on behind it. -/
inductive RunsOn (quote : Char) : Text -> Prop
  | nil : RunsOn quote []
  | backslash : RunsOn quote ['\\']
  | escape (escaped : Char) {rest : Text} (runsOn : RunsOn quote rest) :
      RunsOn quote ('\\' :: escaped :: rest)
  | plain {head : Char} {tail : Text} (notEscape : head ≠ '\\') (notQuote : head ≠ quote)
      (noBreak : isLineBreak head = false) (runsOn : RunsOn quote tail) : RunsOn quote (head :: tail)

theorem isOpen_ofString_iff :
    (ofString quote false text).isOpen = true <-> RunsOn quote text := by
  generalize multiline : false = spans
  fun_induction ofString quote spans text with
  | case1 => exact iff_of_true rfl .nil
  | case2 => exact iff_of_true rfl .backslash
  | case3 escaped rest ih =>
      refine ih.trans ⟨.escape escaped, fun runsOn => ?_⟩
      cases runsOn with
      | escape _ runsOn => exact runsOn
      | plain notEscape => exact absurd rfl notEscape
  | case4 tail single notEscape =>
      refine iff_of_false Bool.false_ne_true fun runsOn => ?_
      cases runsOn with
      | backslash => exact notEscape rfl
      | escape => exact notEscape rfl
      | plain _ notQuote => exact notQuote rfl
  | case5 tail notSingle => exact absurd (by simp [← multiline]) notSingle
  | case6 tail notSingle => exact absurd (by simp [← multiline]) notSingle
  | case7 head tail notEscape notQuote breaks =>
      refine iff_of_false Bool.false_ne_true fun runsOn => ?_
      cases runsOn with
      | backslash => exact notEscape rfl
      | escape => exact notEscape rfl
      | plain _ _ noBreak => simp [noBreak] at breaks
  | case8 head tail notEscape notQuote goesOn ih =>
      have noBreak : isLineBreak head = false := by simpa [← multiline] using goesOn
      refine ih.trans ⟨.plain notEscape notQuote noBreak, fun runsOn => ?_⟩
      cases runsOn with
      | backslash => exact absurd rfl notEscape
      | escape => exact absurd rfl notEscape
      | plain _ _ _ runsOn => exact runsOn

/-- If a string goes on behind a line feed, it is because the line feed is escaped. -/
theorem RunsOn.escaped (runsOn : RunsOn quote text) (atFeed : text.getLast? = some '\n') :
    ['\\', '\n'] <:+ text := by
  induction runsOn with
  | nil => exact absurd atFeed (by simp)
  | backslash => exact absurd atFeed (by decide)
  | @escape escaped rest _ ih =>
      cases rest with
      | nil => exact (Option.some.inj atFeed) ▸ List.suffix_rfl
      | cons head tail =>
          exact (ih atFeed).trans (List.suffix_append ['\\', escaped] (head :: tail))
  | @plain head tail _ _ noBreak _ ih =>
      cases tail with
      | nil =>
          obtain rfl : head = '\n' := Option.some.inj atFeed
          exact absurd noBreak (by decide)
      | cons next tail => exact (ih atFeed).trans (List.suffix_cons head (next :: tail))

end Body
end Lexis
