import Lexis.Cut
import Lexis.Scan

namespace Lexis

/-!
Bodies of comments and strings: what lies between an opener and its closer.

A body ends with its closer, which belongs to it.  If the text runs out first,
the body is open, and the scan of the text that follows goes on inside it.
-/

structure Body where
  cut : Cut
  /-- The line feeds taken before the body was over. -/
  lineFeeds : Nat
  /-- The text ran out inside the body. -/
  isOpen : Bool
  deriving DecidableEq, Repr

namespace Body

/-- There is no more text. -/
def unfinished : Body :=
  { cut := Cut.stop [], lineFeeds := 0, isOpen := true }

/-- The body is over, with its closer if it has one. -/
def finished (closer : Text) (rest : Text) : Body :=
  { cut := { taken := closer, rest := rest }, lineFeeds := 0, isOpen := false }

/-- One more character in front. -/
def push (head : Char) (body : Body) : Body :=
  { body with
    cut := body.cut.push head
    lineFeeds := if head = '\n' then body.lineFeeds + 1 else body.lineFeeds }

/-- One more quote in front, which does not end a line whatever character it is. -/
def pushQuote (quote : Char) (body : Body) : Body :=
  { body with cut := body.cut.push quote }

/-- What is open behind the body, if it is part of the given construct. -/
def state (construct : State) (body : Body) : State :=
  if body.isOpen then construct else .normal

/-- The construct's state at every line feed of the body. -/
def lineStates (construct : State) (body : Body) : List State :=
  List.replicate body.lineFeeds construct

/-- A body without its opener, as it stands at the start of a resumed scan. -/
def lexeme (category : Category) (construct : State) (body : Body) : Lexeme :=
  { category := category, text := body.cut.taken, lineStates := body.lineStates construct }

@[simp] theorem cut_push (head : Char) (body : Body) :
    (body.push head).cut = body.cut.push head := rfl

@[simp] theorem cut_pushQuote (quote : Char) (body : Body) :
    (body.pushQuote quote).cut = body.cut.push quote := rfl

/-- The body of a comment: everything through the first closer. -/
def ofComment (closer : Text) : Text -> Body
  | [] => unfinished
  | head :: tail =>
      if Text.opensWith closer (head :: tail) then finished closer ((head :: tail).drop closer.length)
      else (ofComment closer tail).push head

/-- What opens and closes a string that is quoted three times. -/
def tripled (quote : Char) : Text :=
  if quote = '\'' then ['\'', '\'', '\''] else ['"', '"', '"']

/--
The body of a string.

A backslash takes the next character with it, whatever it is.  A multiline
string ends with three quotes, or with one if the quote is a backtick; any
other string ends with one quote, or before a line break.
-/
def ofString (quote : Char) (multiline : Bool) : Text -> Body
  | [] => unfinished
  | head :: tail =>
      if head = '\\' then
        match tail with
        | [] => unfinished.push head
        | escaped :: rest => ((ofString quote multiline rest).push escaped).push head
      else if head = quote then
        if !multiline || quote == '`' then finished [quote] tail
        else if Text.opensWith (tripled quote) (head :: tail) then
          finished (tripled quote) (tail.drop 2)
        else (ofString quote multiline tail).pushQuote head
      else if !multiline && isLineBreak head then finished [] (head :: tail)
      else (ofString quote multiline tail).push head

theorem whole_finished (closer rest : Text) :
    (finished closer rest).cut.whole = closer ++ rest := rfl

theorem append_drop_of_opensWith {opener text : Text} (opens : Text.opensWith opener text = true) :
    opener ++ text.drop opener.length = text := by
  obtain ⟨rest, rfl⟩ := List.isPrefixOf_iff_prefix.mp opens
  simp

theorem whole_ofComment (closer text : Text) : (ofComment closer text).cut.whole = text := by
  fun_induction ofComment closer text with
  | case1 => rfl
  | case2 head tail opens =>
      rw [whole_finished]
      exact append_drop_of_opensWith opens
  | case3 head tail _ ih => simp [ih]

theorem length_tripled (quote : Char) : (tripled quote).length = 3 := by
  unfold tripled
  split <;> rfl

theorem whole_ofString (quote : Char) (multiline : Bool) (text : Text) :
    (ofString quote multiline text).cut.whole = text := by
  fun_induction ofString quote multiline text with
  | case1 => rfl
  | case2 => rfl
  | case3 escaped rest ih => simp [ih]
  | case4 => simp [whole_finished]
  | case5 tail _ _ opens =>
      rw [whole_finished]
      have := append_drop_of_opensWith opens
      rwa [length_tripled, List.drop_succ_cons] at this
  | case6 tail _ _ _ ih => simp [ih]
  | case7 => simp [whole_finished]
  | case8 head tail _ _ _ ih => simp [ih]

end Body
end Lexis
