import Lexis.Proofs.Body

namespace Lexis

/-!
Where the bodies of comments and strings end.

A body is read unit by unit.  A unit is a character or, in a string, a backslash
and the character that it takes along.  Between two units the body may be over:
before its closer, which it takes, or before a line break, if it may not span
lines.  The first such place counts, and without one the body is open
(`Body.ofComment_ends`, `Body.ofString_ends`).
-/

/-- What the body of a construct is made of, and what it ends with. -/
structure Limits where
  closer : Text
  /-- A backslash takes the next character along. -/
  escapes : Bool
  /-- The body goes on behind a line break. -/
  multiline : Bool
  deriving DecidableEq, Repr

namespace Limits

variable {limits : Limits} {unit front ahead text body : Text}

/-- The text consists of whole units. -/
inductive Units (limits : Limits) : Text -> Prop
  | nil : limits.Units []
  | single {head : Char} {tail : Text} (plain : head = '\\' -> limits.escapes = false)
      (rest : limits.Units tail) : limits.Units (head :: tail)
  | escape {escaped : Char} {tail : Text} (escapes : limits.escapes = true)
      (rest : limits.Units tail) : limits.Units ('\\' :: escaped :: tail)

/-- With this text ahead the body is over, if a unit has just ended. -/
def StopsAt (limits : Limits) (ahead : Text) : Prop :=
  limits.closer <+: ahead ∨ limits.multiline = false ∧ ahead.head?.any isLineBreak = true

/-- The first place in the text where the body is over lies between the two parts. -/
structure IsFirstStop (limits : Limits) (text front ahead : Text) : Prop where
  text_eq : front ++ ahead = text
  units : limits.Units front
  stops : limits.StopsAt ahead
  first : forall earlier behind, earlier ++ behind = text -> limits.Units earlier ->
    limits.StopsAt behind -> front.length ≤ earlier.length

/-- The body that the text begins with, and whether the text runs out inside of it. -/
inductive Ends (limits : Limits) (text : Text) : Text -> Bool -> Prop
  | closed {front behind : Text} (first : limits.IsFirstStop text front (limits.closer ++ behind)) :
      limits.Ends text (front ++ limits.closer) false
  | broken {front ahead : Text} (first : limits.IsFirstStop text front ahead)
      (notClosed : ¬ limits.closer <+: ahead) : limits.Ends text front false
  | unclosed (never : forall front ahead, front ++ ahead = text -> limits.Units front ->
      ¬ limits.StopsAt ahead) : limits.Ends text text true

/-- A body that is over has a place where it is. -/
theorem Ends.isFirstStop (ends : limits.Ends text body false) :
    exists front ahead, limits.IsFirstStop text front ahead := by
  cases ends with
  | closed first => exact ⟨_, _, first⟩
  | broken first _ => exact ⟨_, _, first⟩

/-- Whether the text runs out inside of the body depends on nothing else. -/
theorem Ends.isOpen_eq {other : Text} {first second : Bool} (ends : limits.Ends text body first)
    (endsToo : limits.Ends text other second) : first = second := by
  have never : forall {open' closed}, limits.Ends text open' true ->
      ¬ limits.Ends text closed false := by
    intro open' closed ends stopped
    rcases stopped.isFirstStop with ⟨front, ahead, stop⟩
    cases ends with
    | unclosed never => exact never front ahead stop.text_eq stop.units stop.stops
  cases first <;> cases second
  · rfl
  · exact absurd ends (never endsToo)
  · exact absurd endsToo (never ends)
  · rfl

/-- A body that stops at once is its closer, or nothing before a line break. -/
theorem isFirstStop_nil (stops : limits.StopsAt text) : limits.IsFirstStop text [] text :=
  ⟨rfl, .nil, stops, fun _ _ _ _ _ => Nat.zero_le _⟩

theorem ends_closer (limits : Limits) (behind : Text) :
    limits.Ends (limits.closer ++ behind) limits.closer false :=
  .closed (isFirstStop_nil (Or.inl ⟨behind, rfl⟩))

theorem not_stopsAt_nil (present : limits.closer ≠ []) : ¬ limits.StopsAt [] := by
  rintro (closes | ⟨-, breaks⟩)
  · exact present (List.prefix_nil.mp closes)
  · exact absurd breaks (by simp)

theorem ends_nil (present : limits.closer ≠ []) : limits.Ends [] [] true := by
  apply Ends.unclosed
  intro front ahead same _ stops
  rw [(List.append_eq_nil_iff.mp same).2] at stops
  exact not_stopsAt_nil present stops

/-- The units of the whole text are the given one and the units behind it. -/
structure TakesUnit (limits : Limits) (unit text : Text) : Prop where
  append : forall front, limits.Units front -> limits.Units (unit ++ front)
  behind : forall front ahead, front ++ ahead = unit ++ text -> limits.Units front ->
    front = [] ∨ exists more, front = unit ++ more ∧ more ++ ahead = text ∧ limits.Units more

theorem takesUnit_single {head : Char} (plain : head = '\\' -> limits.escapes = false)
    (text : Text) : limits.TakesUnit [head] text where
  append front units := .single plain units
  behind front ahead same units := by
    cases units with
    | nil => exact Or.inl rfl
    | single _ rest =>
        rcases List.cons.inj same with ⟨rfl, behind⟩
        exact Or.inr ⟨_, rfl, behind, rest⟩
    | escape escapes _ =>
        rw [plain (List.cons.inj same).1.symm] at escapes
        exact absurd escapes (by simp)

theorem takesUnit_escape (escapes : limits.escapes = true) (escaped : Char) (text : Text) :
    limits.TakesUnit ['\\', escaped] text where
  append front units := .escape escapes units
  behind front ahead same units := by
    cases units with
    | nil => exact Or.inl rfl
    | single plain _ =>
        rw [plain (List.cons.inj same).1] at escapes
        exact absurd escapes (by simp)
    | escape _ rest =>
        rcases List.cons.inj (List.cons.inj same).2 with ⟨rfl, behind⟩
        exact Or.inr ⟨_, rfl, behind, rest⟩

/-- One more unit in front, before which the body is not over. -/
theorem IsFirstStop.push (stop : limits.IsFirstStop text front ahead)
    (takes : limits.TakesUnit unit text) (goesOn : ¬ limits.StopsAt (unit ++ text)) :
    limits.IsFirstStop (unit ++ text) (unit ++ front) ahead where
  text_eq := by rw [List.append_assoc, stop.text_eq]
  units := takes.append front stop.units
  stops := stop.stops
  first earlier behind same units stops := by
    rcases takes.behind earlier behind same units with rfl | ⟨more, rfl, rest, moreUnits⟩
    · rw [List.nil_append] at same
      exact absurd (same ▸ stops) goesOn
    · rw [List.length_append, List.length_append]
      exact Nat.add_le_add_left (stop.first more behind rest moreUnits stops) _

theorem Ends.push {isOpen : Bool} (ends : limits.Ends text body isOpen)
    (takes : limits.TakesUnit unit text) (goesOn : ¬ limits.StopsAt (unit ++ text)) :
    limits.Ends (unit ++ text) (unit ++ body) isOpen := by
  cases ends with
  | closed first =>
      rw [← List.append_assoc]
      exact .closed (first.push takes goesOn)
  | broken first notClosed => exact .broken (first.push takes goesOn) notClosed
  | unclosed never =>
      apply Ends.unclosed
      intro front ahead same units stops
      rcases takes.behind front ahead same units with rfl | ⟨more, rfl, rest, moreUnits⟩
      · exact goesOn (same ▸ stops)
      · exact never more ahead rest moreUnits stops

end Limits

namespace Body

/-! ## Comments -/

/-- A comment goes on, character by character, up to its closer. -/
def commentLimits (closer : Text) : Limits :=
  { closer := closer, escapes := false, multiline := true }

theorem commentLimits_stopsAt {closer ahead : Text} :
    (commentLimits closer).StopsAt ahead <-> Text.opensWith closer ahead = true := by
  simp [Limits.StopsAt, commentLimits, Text.opensWith]

theorem ofComment_ends {closer : Text} (present : closer ≠ []) (text : Text) :
    (commentLimits closer).Ends text (ofComment closer text).cut.taken
      (ofComment closer text).isOpen := by
  fun_induction ofComment closer text with
  | case1 => exact Limits.ends_nil present
  | case2 head tail opens =>
      have ends := (commentLimits closer).ends_closer ((head :: tail).drop closer.length)
      have whole : (commentLimits closer).closer ++ (head :: tail).drop closer.length = head :: tail :=
        append_drop_of_opensWith opens
      rw [whole] at ends
      exact ends
  | case3 head tail goesOn ih =>
      exact ih.push (Limits.takesUnit_single (fun _ => rfl) tail)
        (mt commentLimits_stopsAt.mp goesOn)

/-! ## Strings -/

/-- A string goes on, with escapes, up to one quote or three of them. -/
def stringLimits (quote : Char) (multiline : Bool) : Limits :=
  { closer := if !multiline || quote == '`' then [quote] else [quote, quote, quote]
    escapes := true
    multiline := multiline }

variable {quote head : Char} {multiline : Bool} {tail : Text}

theorem closer_of_single (single : (!multiline || quote == '`') = true) :
    (stringLimits quote multiline).closer = [quote] :=
  if_pos single

theorem closer_of_tripled (notSingle : ¬ (!multiline || quote == '`') = true) :
    (stringLimits quote multiline).closer = [quote, quote, quote] :=
  if_neg notSingle

theorem stringLimits_of_tripled (notBacktick : quote ≠ '`') :
    stringLimits quote true =
      { closer := [quote, quote, quote], escapes := true, multiline := true } := by
  simp [stringLimits, notBacktick]

/-- A string in backticks may span lines and still ends at a single one. -/
theorem stringLimits_of_single (quote : Char) (spans : Bool) :
    stringLimits quote (quote == '`' && spans) =
      { closer := [quote], escapes := true, multiline := quote == '`' && spans } := by
  cases backtick : quote == '`' <;> simp [stringLimits, backtick]

theorem closer_ne_nil : (stringLimits quote multiline).closer ≠ [] := by
  simp only [stringLimits]
  split <;> simp

theorem not_closer_of_ne (other : head ≠ quote) :
    ¬ (stringLimits quote multiline).closer <+: head :: tail := by
  simp only [stringLimits]
  split
  · exact fun closes => other (List.cons_prefix_cons.mp closes).1.symm
  · exact fun closes => other (List.cons_prefix_cons.mp closes).1.symm

/-- Before another character than the quote, only a line break ends a string. -/
theorem stopsAt_of_ne (other : head ≠ quote) :
    (stringLimits quote multiline).StopsAt (head :: tail) <->
      (!multiline && isLineBreak head) = true := by
  rw [Limits.StopsAt, or_iff_right (not_closer_of_ne other)]
  simp [stringLimits]

theorem ofString_ends (isQuote : quote = '"' ∨ quote = '\'' ∨ quote = '`') (multiline : Bool)
    (text : Text) :
    (stringLimits quote multiline).Ends text (ofString quote multiline text).cut.taken
      (ofString quote multiline text).isOpen := by
  have facts : quote ≠ '\\' ∧ isLineBreak quote = false ∧
      (quote ≠ '`' -> tripled quote = [quote, quote, quote]) := by
    rcases isQuote with rfl | rfl | rfl <;> decide
  rcases facts with ⟨notEscape, noBreak, isTripled⟩
  have escapeGoesOn : forall tail, ¬ (stringLimits quote multiline).StopsAt ('\\' :: tail) := by
    intro tail
    rw [stopsAt_of_ne (Ne.symm notEscape)]
    cases multiline <;> decide
  fun_induction ofString quote multiline text with
  | case1 => exact Limits.ends_nil closer_ne_nil
  | case2 =>
      apply Limits.Ends.unclosed
      intro front ahead same units
      cases units with
      | nil =>
          rw [List.nil_append] at same
          exact same ▸ escapeGoesOn []
      | single plain _ => exact absurd (plain (List.cons.inj same).1) (by simp [stringLimits])
      | escape _ _ => exact absurd (List.cons.inj same).2 (by simp)
  | case3 escaped rest ih =>
      exact ih.push (Limits.takesUnit_escape rfl escaped rest) (escapeGoesOn _)
  | case4 tail single _ =>
      have ends := (stringLimits quote multiline).ends_closer tail
      rw [closer_of_single single] at ends
      exact ends
  | case5 tail notSingle _ opens =>
      have quotes : tripled quote = [quote, quote, quote] :=
        isTripled fun backtick => notSingle (by simp [backtick])
      have ends := (stringLimits quote multiline).ends_closer (tail.drop 2)
      have whole := append_drop_of_opensWith opens
      rw [length_tripled, List.drop_succ_cons] at whole
      rw [closer_of_tripled notSingle, ← quotes, whole] at ends
      exact ends
  | case6 tail notSingle _ goesOn ih =>
      have quotes : tripled quote = [quote, quote, quote] :=
        isTripled fun backtick => notSingle (by simp [backtick])
      apply ih.push (Limits.takesUnit_single (fun escape => absurd escape notEscape) tail)
      rintro (closes | ⟨-, breaks⟩)
      · rw [closer_of_tripled notSingle, ← quotes] at closes
        exact goesOn (List.isPrefixOf_iff_prefix.mpr closes)
      · exact absurd breaks (by simp [noBreak])
  | case7 head tail _ notQuote breaks =>
      exact .broken (Limits.isFirstStop_nil ((stopsAt_of_ne notQuote).mpr breaks))
        (not_closer_of_ne notQuote)
  | case8 head tail notEscape notQuote goesOn ih =>
      exact ih.push (Limits.takesUnit_single (fun escape => absurd escape notEscape) tail)
        (mt (stopsAt_of_ne notQuote).mp goesOn)

end Body
end Lexis
