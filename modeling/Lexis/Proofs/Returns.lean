import Lexis.Proofs.Body

namespace Lexis

/-!
Texts whose lines end with a carriage return and a line feed.

`Text.withReturns` writes a carriage return before every line feed.  A rule that
stops at either of the two characters does not see the difference: it takes the
same characters, and leaves the same text with carriage returns in it.  The body
of a comment takes the carriage returns along, and so does that of a string,
except for a string of one line whose line feeds are escaped.  There the
backslash takes only the carriage return.
-/

namespace Text

/-- The same lines, ended with a carriage return and a line feed each. -/
def withReturns : Text -> Text
  | [] => []
  | head :: tail =>
      if head = '\n' then '\r' :: '\n' :: withReturns tail else head :: withReturns tail

theorem withReturns_feed (tail : Text) :
    withReturns ('\n' :: tail) = '\r' :: '\n' :: withReturns tail := rfl

theorem withReturns_cons {head : Char} (tail : Text) (other : head ≠ '\n') :
    withReturns (head :: tail) = head :: withReturns tail := by
  rw [withReturns, if_neg other]

theorem withReturns_append (front text : Text) :
    withReturns (front ++ text) = withReturns front ++ withReturns text := by
  induction front with
  | nil => rfl
  | cons head tail ih =>
      by_cases feed : head = '\n'
      · subst feed
        rw [List.cons_append, withReturns_feed, withReturns_feed, ih]
        rfl
      · rw [List.cons_append, withReturns_cons _ feed, withReturns_cons _ feed, ih,
          List.cons_append]

theorem withReturns_of_noFeed {text : Text} (noFeed : '\n' ∉ text) : withReturns text = text := by
  induction text with
  | nil => rfl
  | cons head tail ih =>
      have parts := List.ne_and_not_mem_of_not_mem_cons noFeed
      rw [withReturns_cons tail (Ne.symm parts.1), ih parts.2]

/-- An opener within a line stands in front of the rest of the text. -/
theorem withReturns_behind {opener : Text} (noFeed : '\n' ∉ opener) (text : Text) :
    withReturns (opener ++ text) = opener ++ withReturns text := by
  rw [withReturns_append, withReturns_of_noFeed noFeed]

theorem isEmpty_withReturns (text : Text) :
    List.isEmpty (withReturns text) = List.isEmpty text := by
  cases text with
  | nil => rfl
  | cons head tail =>
      rw [withReturns]
      split
      · rfl
      · rfl

/-! ## What is seen of the next characters -/

/-- Neither of the characters that line breaks are made of is in the text. -/
def IsWithinLine (text : Text) : Prop :=
  forall character, character ∈ text -> isLineBreak character = false

instance (text : Text) : Decidable (IsWithinLine text) :=
  List.decidableBAll _ text

theorem IsWithinLine.noFeed {text : Text} (within : IsWithinLine text) : '\n' ∉ text :=
  fun member => absurd (within '\n' member) (by decide)

theorem opensWith_withReturns {opener : Text} (within : IsWithinLine opener) (text : Text) :
    opensWith opener (withReturns text) = opensWith opener text := by
  induction opener generalizing text with
  | nil => rfl
  | cons first others ih =>
      have rest := ih fun character member => within character (List.mem_cons_of_mem _ member)
      have inLine := within first List.mem_cons_self
      cases text with
      | nil => rfl
      | cons head tail =>
          by_cases feed : head = '\n'
          · have notReturn : (first == '\r') = false := by
              simp only [isLineBreak, Bool.or_eq_false_iff] at inLine
              exact inLine.2
            have notFeed : (first == '\n') = false := by
              simp only [isLineBreak, Bool.or_eq_false_iff] at inLine
              exact inLine.1
            rw [feed, withReturns_feed]
            simp only [opensWith, List.isPrefixOf, notReturn, notFeed, Bool.false_and]
          · rw [withReturns_cons tail feed]
            simp only [opensWith, List.isPrefixOf] at rest ⊢
            rw [rest]

/-- A line break is not the beginning of an opener. -/
theorem not_opensWith_of_isLineBreak {opener : Text} (within : IsWithinLine opener)
    (present : opener ≠ []) {head : Char} (breaks : isLineBreak head = true) (tail : Text) :
    ¬ opensWith opener (head :: tail) = true := by
  intro opens
  rcases List.exists_cons_of_ne_nil present with ⟨first, others, rfl⟩
  rcases List.cons_prefix_cons.mp (List.isPrefixOf_iff_prefix.mp opens) with ⟨rfl, -⟩
  rw [within first List.mem_cons_self] at breaks
  exact absurd breaks (by simp)

/-- Tests that do not tell the two characters apart have the same result. -/
theorem any_head?_withReturns {test : Char -> Bool} (same : test '\r' = test '\n') (text : Text) :
    (List.head? (withReturns text)).any test = (List.head? text).any test := by
  cases text with
  | nil => rfl
  | cons head tail =>
      by_cases feed : head = '\n'
      · rw [feed, withReturns_feed]
        exact same
      · rw [withReturns_cons tail feed]
        rfl

theorem head?_withReturns_eq_some_iff {next : Char} (inLine : isLineBreak next = false)
    (text : Text) : List.head? (withReturns text) = some next ↔ List.head? text = some next := by
  cases text with
  | nil => rfl
  | cons head tail =>
      by_cases feed : head = '\n'
      · rw [feed, withReturns_feed]
        apply iff_of_false
        all_goals
          rintro ⟨⟩
          exact absurd inLine (by decide)
      · rw [withReturns_cons tail feed]
        rfl

/-- What stands behind an opener is the same text with carriage returns. -/
theorem drop_withReturns {opener text : Text} (noFeed : '\n' ∉ opener)
    (opens : opensWith opener text = true) :
    List.drop opener.length (withReturns text) = withReturns (text.drop opener.length) := by
  obtain ⟨rest, rfl⟩ := List.isPrefixOf_iff_prefix.mp opens
  rw [withReturns_behind noFeed, List.drop_left, List.drop_left]

/-- Every line feed that stands behind another character stands behind a carriage return. -/
def FeedsBehindReturns (text : Text) : Prop :=
  forall head, [head, '\n'] <:+: text -> head = '\r'

theorem FeedsBehindReturns.suffix {front text : Text} (feeds : FeedsBehindReturns text)
    (isSuffix : front <:+ text) : FeedsBehindReturns front :=
  fun head inFront => feeds head (inFront.trans isSuffix.isInfix)

theorem FeedsBehindReturns.tail {head : Char} {tail : Text}
    (feeds : FeedsBehindReturns (head :: tail)) : FeedsBehindReturns tail :=
  feeds.suffix (List.suffix_cons head tail)

theorem not_feed_prefix_withReturns (text : Text) : ¬ ['\n'] <+: withReturns text := by
  cases text with
  | nil => simp [withReturns]
  | cons head tail =>
      by_cases feed : head = '\n'
      · simp [feed, withReturns_feed]
      · simp [withReturns_cons tail feed, Ne.symm feed]

theorem feedsBehindReturns_withReturns (text : Text) :
    FeedsBehindReturns (withReturns text) := by
  induction text with
  | nil =>
      intro head inText
      exact absurd (List.infix_nil.mp inText) (by simp)
  | cons head tail ih =>
      have before : forall first second, [first, '\n'] <:+: second :: withReturns tail ->
          first = '\r' := by
        intro first second inText
        rcases List.infix_cons_iff.mp inText with atHead | behind
        · exact absurd (List.cons_prefix_cons.mp atHead).2 (not_feed_prefix_withReturns tail)
        · exact ih first behind
      by_cases feed : head = '\n'
      · subst feed
        intro first inText
        rw [withReturns_feed] at inText
        rcases List.infix_cons_iff.mp inText with atHead | behind
        · exact (List.cons_prefix_cons.mp atHead).1
        · exact before first '\n' behind
      · intro first inText
        rw [withReturns_cons tail feed] at inText
        exact before first head inText

end Text

namespace Cut

/-- The cut of the same lines with carriage returns. -/
def withReturns (cut : Cut) : Cut :=
  { taken := cut.taken.withReturns, rest := cut.rest.withReturns }

theorem withReturns_stop (text : Text) : (stop text).withReturns = stop text.withReturns := rfl

theorem withReturns_push {head : Char} (other : head ≠ '\n') (cut : Cut) :
    (cut.push head).withReturns = cut.withReturns.push head := by
  simp only [withReturns, push, Text.withReturns_cons _ other]

theorem withReturns_pushAll {front : Text} (noFeed : '\n' ∉ front) (cut : Cut) :
    (cut.pushAll front).withReturns = cut.withReturns.pushAll front := by
  simp only [withReturns, pushAll, Text.withReturns_behind noFeed]

/-- The rule takes the same from the same lines with carriage returns. -/
def IgnoresReturns (rule : Text -> Cut) : Prop :=
  forall text : Text, rule text.withReturns = (rule text).withReturns

theorem ignoresReturns_stop : IgnoresReturns stop :=
  fun _ => rfl

theorem ignoresReturns_run {inClass : Char -> Bool} (noFeed : inClass '\n' = false)
    (noReturn : inClass '\r' = false) : IgnoresReturns (run inClass) := by
  intro text
  induction text with
  | nil => rfl
  | cons head tail ih =>
      by_cases feed : head = '\n'
      · subst feed
        simp [run, withReturns, Text.withReturns_feed, noFeed, noReturn, Text.withReturns]
      · simp only [run, withReturns, Cut.mk.injEq] at ih
        rw [Text.withReturns_cons tail feed]
        by_cases member : inClass head = true
        · simp [run, withReturns, member, ih, Text.withReturns_cons _ feed]
        · simp [run, withReturns, member, Text.withReturns_cons _ feed, Text.withReturns]

theorem ignoresReturns_toLineEnd : IgnoresReturns toLineEnd :=
  ignoresReturns_run (by decide) (by decide)

theorem ignoresReturns_through (closer : Char) : IgnoresReturns (through closer) := by
  intro text
  fun_induction through closer text with
  | case1 => rfl
  | case2 head tail breaks =>
      by_cases feed : head = '\n'
      · subst feed
        rfl
      · rw [Text.withReturns_cons tail feed, through, if_pos breaks, withReturns_stop,
          Text.withReturns_cons tail feed]
  | case3 tail inLine =>
      have other := ne_feed_of_not_isLineBreak inLine
      rw [Text.withReturns_cons tail other, through, if_neg inLine, if_pos rfl,
        withReturns_push other, withReturns_stop]
  | case4 head tail inLine notCloser ih =>
      have other := ne_feed_of_not_isLineBreak inLine
      rw [Text.withReturns_cons tail other, through, if_neg inLine, if_neg notCloser, ih,
        withReturns_push other]

theorem ignoresReturns_throughPair (closer : Char) : IgnoresReturns (throughPair closer) := by
  intro text
  fun_induction throughPair closer text with
  | case1 => rfl
  | case2 head tail breaks =>
      by_cases feed : head = '\n'
      · subst feed
        rfl
      · rw [Text.withReturns_cons tail feed, throughPair, if_pos breaks, withReturns_stop,
          Text.withReturns_cons tail feed]
  | case3 head tail inLine pair =>
      have other := ne_feed_of_not_isLineBreak inLine
      simp only [Bool.and_eq_true, decide_eq_true_eq] at pair
      rcases pair with ⟨rfl, doubled⟩
      rcases List.head?_eq_some_iff.mp doubled with ⟨rest, rfl⟩
      rw [Text.withReturns_cons _ other, Text.withReturns_cons _ other, throughPair, if_neg inLine,
        if_pos (by simp), withReturns_push other]
      simp only [count, withReturns, push, List.take_succ_cons, List.take_zero, List.drop_succ_cons,
        List.drop_zero, Text.withReturns_cons _ other, Text.withReturns]
  | case4 head tail inLine noPair ih =>
      have other := ne_feed_of_not_isLineBreak inLine
      have noPairToo : ¬ (decide (head = closer) &&
          decide (List.head? (Text.withReturns tail) = some closer)) = true := by
        simp only [Bool.and_eq_true, decide_eq_true_eq] at noPair ⊢
        rintro ⟨rfl, doubled⟩
        have same := Text.head?_withReturns_eq_some_iff (Bool.eq_false_iff.mpr inLine) tail
        exact noPair ⟨rfl, same.mp doubled⟩
      rw [Text.withReturns_cons tail other, throughPair, if_neg inLine, if_neg noPairToo, ih,
        withReturns_push other]

/-- A rule that ignores carriage returns still does so behind one more character. -/
theorem IgnoresReturns.behind {rule : Text -> Cut} (ignores : IgnoresReturns rule) {first : Char}
    (other : first ≠ '\n') (rest : Text) :
    behind 1 rule (Text.withReturns (first :: rest)) =
      (behind 1 rule (first :: rest)).withReturns := by
  have noFeed : '\n' ∉ [first] := by simpa using Ne.symm other
  rw [Text.withReturns_cons rest other]
  simp only [Cut.behind, List.drop_succ_cons, List.drop_zero, List.take_succ_cons, List.take_zero,
    ignores rest, withReturns_pushAll noFeed]

end Cut

namespace Body

/-- The body of the same lines with carriage returns. -/
def withReturns (body : Body) : Body :=
  { body with cut := body.cut.withReturns }

theorem withReturns_push {head : Char} (other : head ≠ '\n') (body : Body) :
    (body.push head).withReturns = body.withReturns.push head := by
  simp only [withReturns, push, Cut.withReturns_push other]

theorem withReturns_push_feed (body : Body) :
    (body.push '\n').withReturns = (body.withReturns.push '\n').push '\r' := rfl

theorem withReturns_finished {closer : Text} (noFeed : '\n' ∉ closer) (rest : Text) :
    (finished closer rest).withReturns = finished closer rest.withReturns := by
  simp only [withReturns, finished, Cut.withReturns, Text.withReturns_of_noFeed noFeed]

theorem ofComment_of_opens {closer text : Text} (nonempty : text ≠ [])
    (opens : Text.opensWith closer text = true) :
    ofComment closer text = finished closer (text.drop closer.length) := by
  rcases List.exists_cons_of_ne_nil nonempty with ⟨head, tail, rfl⟩
  rw [ofComment, if_pos opens]

theorem ofComment_of_not_opens {closer : Text} {head : Char} {tail : Text}
    (goesOn : ¬ Text.opensWith closer (head :: tail) = true) :
    ofComment closer (head :: tail) = (ofComment closer tail).push head := by
  rw [ofComment, if_neg goesOn]

/-- A comment goes over its line breaks, whatever they consist of. -/
theorem ofComment_withReturns {closer : Text} (within : closer.IsWithinLine) (text : Text) :
    ofComment closer text.withReturns = (ofComment closer text).withReturns := by
  fun_induction ofComment closer text with
  | case1 => rfl
  | case2 head tail opens =>
      have longer := Text.opensWith_withReturns within (head :: tail)
      have nonempty : Text.withReturns (head :: tail) ≠ [] := by
        rw [Text.withReturns]
        split <;> simp
      rw [ofComment_of_opens nonempty (longer.trans opens),
        Text.drop_withReturns within.noFeed opens, withReturns_finished within.noFeed]
  | case3 head tail goesOn ih =>
      by_cases feed : head = '\n'
      · subst feed
        have present : closer ≠ [] := by
          rintro rfl
          exact goesOn rfl
        have notReturn : forall tail, ¬ Text.opensWith closer ('\r' :: tail) = true :=
          Text.not_opensWith_of_isLineBreak within present rfl
        have notFeed : forall tail, ¬ Text.opensWith closer ('\n' :: tail) = true :=
          Text.not_opensWith_of_isLineBreak within present rfl
        rw [Text.withReturns_feed, ofComment_of_not_opens (notReturn _),
          ofComment_of_not_opens (notFeed _), ih, withReturns_push_feed]
      · have longer := Text.opensWith_withReturns within (head :: tail)
        rw [Text.withReturns_cons tail feed] at longer ⊢
        rw [← longer] at goesOn
        rw [ofComment_of_not_opens goesOn, ih, withReturns_push feed]

theorem lineFeeds_of_push {head : Char} {body : Body} (none : (body.push head).lineFeeds = 0) :
    head ≠ '\n' ∧ body.lineFeeds = 0 := by
  simp only [push] at none
  split at none
  · exact absurd none (Nat.succ_ne_zero _)
  · next other => exact ⟨other, none⟩

theorem isWithinLine_tripled (quote : Char) : (tripled quote).IsWithinLine := by
  unfold tripled
  split <;> decide

/--
A string goes over its line breaks likewise, unless it is of one line.  Then its
line feeds are escaped, and there must be none.
-/
theorem ofString_withReturns {quote : Char} (inLine : isLineBreak quote = false)
    {multiline : Bool} {text : Text}
    (goesOn : multiline = true ∨ (ofString quote multiline text).lineFeeds = 0) :
    ofString quote multiline text.withReturns = (ofString quote multiline text).withReturns := by
  have returnOther : '\r' ≠ quote := by
    rintro rfl
    exact absurd inLine (by decide)
  have feedOther : '\n' ≠ quote := by
    rintro rfl
    exact absurd inLine (by decide)
  fun_induction ofString quote multiline text with
  | case1 => rfl
  | case2 => rfl
  | case3 escaped rest ih =>
      have behind := ih (goesOn.imp_right fun none =>
        (lineFeeds_of_push (lineFeeds_of_push none).2).2)
      by_cases feed : escaped = '\n'
      · subst feed
        have spans : multiline = true :=
          goesOn.resolve_right fun none => (lineFeeds_of_push (lineFeeds_of_push none).2).1 rfl
        subst spans
        rw [Text.withReturns_cons _ (by decide), Text.withReturns_feed, ofString_escape,
          ofString_other true _ (by decide) feedOther, behind, withReturns_push (by decide),
          withReturns_push_feed]
        rfl
      · rw [Text.withReturns_cons _ (by decide), Text.withReturns_cons _ feed, ofString_escape,
          behind, withReturns_push (by decide), withReturns_push feed]
  | case4 tail single notEscape =>
      rw [Text.withReturns_cons _ feedOther.symm, ofString_quote multiline _ notEscape,
        if_pos single, withReturns_finished (by simpa using feedOther)]
  | case5 tail notSingle notEscape opens =>
      have within := isWithinLine_tripled quote
      have longer := Text.opensWith_withReturns within (quote :: tail)
      have rest := Text.drop_withReturns within.noFeed opens
      rw [Text.withReturns_cons _ feedOther.symm] at longer rest ⊢
      rw [length_tripled, List.drop_succ_cons, List.drop_succ_cons] at rest
      rw [ofString_quote multiline _ notEscape, if_neg notSingle, longer, if_pos opens, rest,
        withReturns_finished within.noFeed]
  | case6 tail notSingle notEscape notOpens ih =>
      have longer := Text.opensWith_withReturns (isWithinLine_tripled quote) (quote :: tail)
      rw [Text.withReturns_cons _ feedOther.symm] at longer ⊢
      rw [ofString_quote multiline _ notEscape, if_neg notSingle, longer, if_neg notOpens,
        ih goesOn]
      simp only [withReturns, pushQuote, Cut.withReturns_push feedOther.symm]
  | case7 head tail notEscape notQuote breaks =>
      by_cases feed : head = '\n'
      · subst feed
        have breaksToo : (!multiline && isLineBreak '\r') = true := breaks
        rw [Text.withReturns_feed, ofString_other multiline _ (by decide) returnOther,
          if_pos breaksToo, withReturns_finished (by simp), Text.withReturns_feed]
      · rw [Text.withReturns_cons _ feed, ofString_other multiline _ notEscape notQuote,
          if_pos breaks, withReturns_finished (by simp), Text.withReturns_cons _ feed]
  | case8 head tail notEscape notQuote notBreak ih =>
      by_cases feed : head = '\n'
      · subst feed
        have noBreak : ¬ (!multiline && isLineBreak '\r') = true := notBreak
        have behind := ih (goesOn.imp_right fun none => (lineFeeds_of_push none).2)
        rw [Text.withReturns_feed, ofString_other multiline _ (by decide) returnOther,
          if_neg noBreak, ofString_other multiline _ (by decide) feedOther, if_neg notBreak, behind,
          withReturns_push_feed]
      · have behind := ih (goesOn.imp_right fun none => (lineFeeds_of_push none).2)
        rw [Text.withReturns_cons _ feed, ofString_other multiline _ notEscape notQuote,
          if_neg notBreak, behind, withReturns_push feed]

/-- No string of one line goes over a carriage return and a line feed. -/
theorem lineFeeds_ofString_of_feeds (quote : Char) {text : Text}
    (feeds : text.FeedsBehindReturns) : (ofString quote false text).lineFeeds = 0 := by
  fun_induction ofString quote false text with
  | case1 => rfl
  | case2 => rfl
  | case3 escaped rest ih =>
      have other : escaped ≠ '\n' := by
        rintro rfl
        exact absurd (feeds '\\' ⟨[], rest, rfl⟩) (by decide)
      simp [push, other, ih feeds.tail.tail]
  | case4 => rfl
  | case5 => rfl
  | case6 tail _ _ _ ih => exact ih feeds.tail
  | case7 => rfl
  | case8 head tail _ _ notBreak ih =>
      have other : head ≠ '\n' := by
        rintro rfl
        exact notBreak rfl
      simp [push, other, ih feeds.tail]

end Body
end Lexis
