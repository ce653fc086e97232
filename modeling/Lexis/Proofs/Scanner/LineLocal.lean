import Lexis.Proofs.Body
import Lexis.Proofs.Scan.Append
import Lexis.Scanner

namespace Lexis

/-!
Scanners that look no further than a line.

A scanner of this kind decides on each lexeme by characters of the line the
lexeme begins in, and keeps no mode over a line's end except what its states
report.  Such a scan may be interrupted after any line: `IsLineLocal.scan_append`
says that a scan of whole lines and then a scan of the text behind them, taken
up in the state that the first one ended in, are together the scan of both.

The scanners here have lexemes of three kinds: line breaks, lexemes within a
line, and constructs with a body that may reach over many lines.  A scanner is
recognised as line-local by giving its kind of lexeme at each place.
-/

/-- Where whole lines begin with something else than their end, adding text changes no rule. -/
theorem Text.Seam.settles {head : Char} {tail more : Text} (seam : Text.Seam (head :: tail) more)
    (other : head ≠ '\n') : tail.Settles more := by
  rcases seam with whole | none
  · exact Or.inl ((List.mem_cons.mp (whole.feed_mem (by simp))).resolve_left (Ne.symm other))
  · exact Or.inr none

theorem Cut.isWholeLines_rest {cut : Cut} {text : Text} (parts : cut.whole = text)
    (whole : text.IsWholeLines) : cut.rest.IsWholeLines := by
  rw [← parts, Cut.whole] at whole
  exact whole.right

namespace State

/-- The character that quotes the open string. -/
def quote? : State -> Option Char
  | inString quote _ => some quote
  | _ => none

end State

/-- A string or comment that a text can leave open. -/
structure Construct where
  category : Category
  state : State
  /-- The rest of its body in a text that begins inside it. -/
  body : Text -> Body

namespace Construct

/--
A way of reading the construct's body, from its opener or from a line's start.
Behind whole lines that leave the body open, the construct's own way goes on.
-/
structure ReadBy (construct : Construct) (reader : Text -> Body) : Prop where
  append : forall {text : Text} (more : Text), text.IsWholeLines -> text ≠ [] ->
    reader (text ++ more) = (reader text).before more (construct.body more)
  whole : forall text : Text, (reader text).cut.whole = text
  rest_of_open : forall {text : Text}, (reader text).isOpen = true -> (reader text).cut.rest = []
  lineFeeds : forall text : Text, (reader text).lineFeeds = (reader text).cut.taken.lineFeeds
  rest_of_closed : forall {text : Text}, text.IsWholeLines -> (reader text).isOpen = false ->
    text ≠ [] -> (reader text).cut.rest ≠ []

/-- The construct can be left open by whole lines and taken up again behind them. -/
structure IsLineLocal (construct : Construct) : Prop
    extends construct.ReadBy construct.body where
  isOpen : construct.state ≠ .normal
  /-- Line feeds inside the construct are line ends. -/
  quote_ne_feed : construct.state.quote? ≠ some '\n'
  category_ne : construct.category ≠ .newline
  body_nil : construct.body [] = Body.unfinished
  /-- If nothing of the body is left, a line break or nothing follows. -/
  text_of_taken : forall {text : Text}, (construct.body text).cut.taken = [] ->
    text = [] ∨ exists head tail, isLineBreak head = true ∧
      construct.body text = Body.finished [] (head :: tail)

variable {construct : Construct} {reader : Text -> Body} {text : Text}

theorem ReadBy.taken_of_open (read : construct.ReadBy reader)
    (isOpen : (reader text).isOpen = true) : (reader text).cut.taken = text := by
  have all := read.whole text
  rw [Cut.whole, read.rest_of_open isOpen, List.append_nil] at all
  exact all

/-- Whole lines that do not end the body have at least one line end. -/
theorem ReadBy.lineFeeds_pos (read : construct.ReadBy reader) (whole : text.IsWholeLines)
    (nonempty : text ≠ []) (isOpen : (reader text).isOpen = true) :
    0 < (reader text).lineFeeds := by
  rw [read.lineFeeds, read.taken_of_open isOpen]
  exact List.count_pos_iff.mpr (whole.feed_mem nonempty)

end Construct

variable {Mode : Type}

/-- The step on a longer text, if it had stopped before the added characters. -/
def Step.extend (step : Step Mode) (more : Text) : Step Mode :=
  { step with cut := step.cut.extend more }

namespace Scanner

/-- A text that begins inside the construct is scanned by reading the rest of its body first. -/
def Resumes (scanner : Scanner Mode) (inside : Mode) (scan : State -> Text -> Scan)
    (construct : Construct) : Prop :=
  forall text, scan construct.state text =
    scanner.resume construct.category construct.state inside (construct.body text)

/--
The lexeme at a place, whose kind remains if text is added behind whole lines.
In the first two kinds everything is settled within the line, and in the third
within the construct.  A line begins in the mode `fresh`, and the text behind a
construct that spans lines in the mode `inside`.
-/
inductive LineStep (scanner : Scanner Mode) (fresh inside : Mode)
    (scan : State -> Text -> Scan) (mode : Mode) (head : Char) (tail : Text) : Prop where
  | lineBreak (breaks : isLineBreak head = true)
      (next : forall more, Text.Seam (head :: tail) more ->
        scanner.next mode head (tail ++ more) = Step.lineBreak fresh head (tail ++ more))
  | within (category : Category) (after : Mode) (cut : Cut) (noFeed : '\n' ∉ head :: cut.taken)
      (next : forall more, Text.Seam (head :: tail) more ->
        scanner.next mode head (tail ++ more) =
          { category := category, cut := cut.extend more, mode := after })
  | construct (construct : Construct) (reader : Text -> Body) (opener front : Text)
      (after : Nat -> Mode) (isLineLocal : construct.IsLineLocal) (read : construct.ReadBy reader)
      (resumes : scanner.Resumes inside scan construct)
      (noFeed : '\n' ∉ head :: opener) (parts : tail = opener ++ front)
      (inside_after : forall count, 0 < count -> after count = inside)
      (next : forall more, Text.Seam (head :: tail) more ->
        scanner.next mode head (tail ++ more) =
          Step.ofBody construct.category construct.state (after (reader (front ++ more)).lineFeeds)
            opener (reader (front ++ more)))

/--
Every lexeme is of one of the three kinds, and every state is taken up by
reading a construct.
-/
structure IsLineLocal (scanner : Scanner Mode) (fresh inside : Mode)
    (scan : State -> Text -> Scan) : Prop where
  step : forall mode head tail, scanner.LineStep fresh inside scan mode head tail
  category_lineBreak : forall mode head tail, isLineBreak head = true ->
    (scanner.next mode head tail).category = .newline
  scan_normal : forall text, scan .normal text = scanner.run .normal fresh text
  scan_state : forall state : State, state.quote? ≠ some '\n' ->
    (forall text, scan state text = scan .normal text) ∨
      exists construct : Construct, construct.IsLineLocal ∧ scanner.Resumes inside scan construct ∧
        forall text, scan state text = scan construct.state text

end Scanner

namespace Step

/-- A line break takes a line feed, a carriage return with a line feed, or a carriage return. -/
theorem lineBreak_cases (mode : Mode) {head : Char} (tail : Text)
    (breaks : isLineBreak head = true) :
    (head = '\n' ∧ lineBreak mode head tail =
        { category := .newline, cut := Cut.stop tail, lineStates := [.normal], mode := mode }) ∨
      (exists rest, head = '\r' ∧ tail = '\n' :: rest ∧ lineBreak mode head tail =
        { category := .newline, cut := { taken := ['\n'], rest := rest }, lineStates := [.normal],
          mode := mode }) ∨
      (head = '\r' ∧ tail.head? ≠ some '\n' ∧ lineBreak mode head tail =
        { category := .newline, cut := Cut.stop tail, mode := mode }) := by
  simp only [isLineBreak, Bool.or_eq_true, beq_iff_eq] at breaks
  rcases breaks with rfl | rfl
  · exact Or.inl ⟨rfl, rfl⟩
  · by_cases feed : tail.head? = some '\n'
    · rcases List.head?_eq_some_iff.mp feed with ⟨rest, rfl⟩
      exact Or.inr (Or.inl ⟨rest, rfl, rfl, rfl⟩)
    · exact Or.inr (Or.inr ⟨rfl, feed, by simp [lineBreak, feed, Cut.stop]⟩)

/-- A line break is told from the character behind it, which only a carriage return needs. -/
theorem lineBreak_append (mode : Mode) {head : Char} {tail : Text} (more : Text)
    (breaks : isLineBreak head = true) (present : head = '\r' -> tail ≠ []) :
    lineBreak mode head (tail ++ more) = (lineBreak mode head tail).extend more := by
  rcases lineBreak_cases mode tail breaks with ⟨rfl, same⟩ | ⟨rest, rfl, rfl, same⟩ |
      ⟨rfl, other, same⟩
  · rw [same]
    rfl
  · rw [same]
    rfl
  · rcases List.exists_cons_of_ne_nil (present rfl) with ⟨second, tail, rfl⟩
    rw [same]
    rcases lineBreak_cases mode (second :: tail ++ more) breaks with ⟨feed, -⟩ | ⟨_, -, feed, -⟩ |
        ⟨-, -, same⟩
    · exact absurd feed (by decide)
    · exact absurd (List.cons.inj feed).1 (by simpa using other)
    · exact same

theorem lineFeeds_lineBreak (mode : Mode) {head : Char} (tail : Text)
    (breaks : isLineBreak head = true) :
    (lineBreak mode head tail).lineStates.length =
      Text.lineFeeds (head :: (lineBreak mode head tail).cut.taken) := by
  rcases lineBreak_cases mode tail breaks with ⟨rfl, same⟩ | ⟨rest, rfl, -, same⟩ |
      ⟨rfl, -, same⟩ <;>
    rw [same] <;> rfl

/-- A line break that ends a text of whole lines ends a line. -/
theorem lineStates_lineBreak (mode : Mode) {head : Char} {tail : Text}
    (breaks : isLineBreak head = true) (whole : Text.IsWholeLines (head :: tail))
    (ended : (lineBreak mode head tail).cut.rest = []) :
    (lineBreak mode head tail).lineStates = [.normal] := by
  rcases lineBreak_cases mode tail breaks with ⟨rfl, same⟩ | ⟨rest, rfl, -, same⟩ |
      ⟨rfl, -, same⟩
  · rw [same]
  · rw [same]
  · rw [same] at ended
    exact absurd ended (whole.tail_ne_nil (by decide))

end Step

namespace Scanner

variable {scanner : Scanner Mode} {fresh inside : Mode} {scan : State -> Text -> Scan}
  {mode : Mode} {head : Char} {tail : Text}

/-- A lexeme that a line rule takes behind its first character. -/
theorem LineStep.ofRule (category : Category) (after : Mode) {rule : Text -> Cut}
    (isLineRule : Cut.IsLineRule rule) (other : head ≠ '\n')
    (next : forall more, Text.Seam (head :: tail) more -> scanner.next mode head (tail ++ more) =
      { category := category, cut := rule (tail ++ more), mode := after }) :
    scanner.LineStep fresh inside scan mode head tail := by
  refine .within category after (rule tail) ?_ fun more seam => ?_
  · simpa [Ne.symm other] using isLineRule.noFeed tail
  · rw [next more seam, isLineRule.append (seam.settles other)]

/-- The three kinds of lexemes, as they are while nothing is added to the text. -/
theorem LineStep.now (step : scanner.LineStep fresh inside scan mode head tail) :
    (isLineBreak head = true ∧ scanner.next mode head tail = Step.lineBreak fresh head tail) ∨
      (exists category after cut, '\n' ∉ head :: cut.taken ∧
        scanner.next mode head tail = { category := category, cut := cut, mode := after }) ∨
      exists (construct : Construct) (reader : Text -> Body) (opener front : Text) (after : Mode),
        construct.IsLineLocal ∧ construct.ReadBy reader ∧
          scanner.Resumes inside scan construct ∧
          '\n' ∉ head :: opener ∧ tail = opener ++ front ∧
          scanner.next mode head tail =
            Step.ofBody construct.category construct.state after opener (reader front) := by
  cases step with
  | lineBreak breaks next =>
      have now := next [] (Or.inr rfl)
      rw [List.append_nil] at now
      exact Or.inl ⟨breaks, now⟩
  | within category after cut noFeed next =>
      have now := next [] (Or.inr rfl)
      rw [List.append_nil, Cut.extend_nil] at now
      exact Or.inr (Or.inl ⟨category, after, cut, noFeed, now⟩)
  | construct construct reader opener front after isLineLocal read resumes noFeed parts
      inside_after next =>
      have now := next [] (Or.inr rfl)
      rw [List.append_nil, List.append_nil] at now
      exact Or.inr (Or.inr ⟨construct, reader, opener, front, _, isLineLocal, read, resumes, noFeed,
        parts, now⟩)

/--
The state behind a lexeme is normal, or it is that of a construct which takes
all of the text.
-/
theorem LineStep.state (step : scanner.LineStep fresh inside scan mode head tail) :
    (scanner.next mode head tail).state = .normal ∨
      exists construct : Construct, construct.IsLineLocal ∧ scanner.Resumes inside scan construct ∧
        (scanner.next mode head tail).state = construct.state ∧
        (scanner.next mode head tail).cut.rest = [] := by
  rcases step.now with ⟨-, now⟩ | ⟨_, _, _, -, now⟩ |
    ⟨construct, reader, opener, front, after, isLineLocal, read, resumes, -, -, now⟩
  · rw [now]
    exact Or.inl rfl
  · rw [now]
    exact Or.inl rfl
  · rw [now]
    cases isOpen : (reader front).isOpen with
    | false => exact Or.inl (by simp [Step.ofBody, Body.state, isOpen])
    | true =>
        refine Or.inr ⟨construct, isLineLocal, resumes, ?_, ?_⟩
        · simp [Step.ofBody, Body.state, isOpen]
        · simpa [Step.ofBody, Cut.pushAll] using read.rest_of_open isOpen

/-- A lexeme reports one state for each of its line feeds. -/
theorem LineStep.lineFeeds (step : scanner.LineStep fresh inside scan mode head tail) :
    (scanner.next mode head tail).lineStates.length =
      Text.lineFeeds (head :: (scanner.next mode head tail).cut.taken) := by
  rcases step.now with ⟨breaks, now⟩ | ⟨category, after, cut, noFeed, now⟩ |
    ⟨construct, reader, opener, front, after, -, read, -, noFeed, -, now⟩
  · rw [now]
    exact Step.lineFeeds_lineBreak fresh tail breaks
  · rw [now]
    exact (List.count_eq_zero_of_not_mem noFeed).symm
  · have openerFeeds : Text.lineFeeds (head :: opener) = 0 :=
      List.count_eq_zero_of_not_mem noFeed
    rw [now]
    simp only [Step.ofBody, Body.lineStates, List.length_replicate, Cut.pushAll, read.lineFeeds]
    rw [← List.cons_append, Text.lineFeeds_append, openerFeeds, Nat.zero_add]

/--
A lexeme at the end of whole lines reports the state that it leaves behind its
last line feed, and if that is normal, the scanner's mode is that of a new line.
-/
theorem LineStep.atEnd (step : scanner.LineStep fresh inside scan mode head tail)
    (whole : Text.IsWholeLines (head :: tail))
    (ended : (scanner.next mode head tail).cut.rest = []) :
    (scanner.next mode head tail).lineStates.getLast? = some (scanner.next mode head tail).state ∧
      ((scanner.next mode head tail).state = .normal ->
        (scanner.next mode head tail).mode = fresh) := by
  rcases step.now with ⟨breaks, now⟩ | ⟨category, after, cut, noFeed, now⟩ |
    ⟨construct, reader, opener, front, after, isLineLocal, read, -, noFeed, parts, now⟩
  · rw [now] at ended ⊢
    rw [Step.lineStates_lineBreak fresh breaks whole ended]
    exact ⟨rfl, fun _ => rfl⟩
  · have taken := scanner.whole_cut mode head tail
    rw [Cut.whole, ended, List.append_nil, now] at taken
    rw [← taken] at whole
    exact absurd (whole.feed_mem (by simp)) noFeed
  · rw [now, Step.ofBody] at ended ⊢
    rw [parts, ← List.cons_append] at whole
    rcases whole.behind (by simp) noFeed with ⟨frontWhole, frontNonempty⟩
    have isOpen : (reader front).isOpen = true := by
      cases isOpen : (reader front).isOpen with
      | true => rfl
      | false => exact absurd ended (read.rest_of_closed frontWhole isOpen frontNonempty)
    have counted := read.lineFeeds_pos frontWhole frontNonempty isOpen
    rw [Body.lineStates, Body.state, if_pos isOpen, List.getLast?_replicate,
      if_neg (Nat.ne_of_gt counted)]
    constructor
    · rfl
    · intro normal
      exact absurd normal isLineLocal.isOpen

/-- A lexeme that is over before the whole lines are is the same whatever follows them. -/
theorem LineStep.next_append (step : scanner.LineStep fresh inside scan mode head tail)
    (whole : Text.IsWholeLines (head :: tail))
    (closed : (scanner.next mode head tail).state = .normal) (more : Text) :
    scanner.next mode head (tail ++ more) = (scanner.next mode head tail).extend more := by
  cases step with
  | lineBreak breaks next =>
      have now := next [] (Or.inr rfl)
      rw [List.append_nil] at now
      have present : head = '\r' -> tail ≠ [] := by
        rintro rfl
        exact whole.tail_ne_nil (by decide)
      rw [next more (Or.inl whole), now, Step.lineBreak_append fresh more breaks present]
  | within category after cut noFeed next =>
      have now := next [] (Or.inr rfl)
      rw [List.append_nil, Cut.extend_nil] at now
      rw [next more (Or.inl whole), now]
      rfl
  | construct construct reader opener front after isLineLocal read resumes noFeed parts
      inside_after next =>
      have now := next [] (Or.inr rfl)
      have later := next more (Or.inl whole)
      rw [List.append_nil, List.append_nil] at now
      rw [parts, ← List.cons_append] at whole
      rcases whole.behind (by simp) noFeed with ⟨frontWhole, frontNonempty⟩
      have ended : (reader front).isOpen = false := by
        cases isOpen : (reader front).isOpen with
        | false => rfl
        | true =>
            rw [now, Step.ofBody, Body.state, if_pos isOpen] at closed
            exact absurd closed isLineLocal.isOpen
      rw [later, now, read.append more frontWhole frontNonempty,
        Body.before_of_closed ended]
      rfl

end Scanner
end Lexis
