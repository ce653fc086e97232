import Lexis.Proofs.Toml.Quoted

namespace Lexis
namespace Toml

/-!
Written lines are read back.

A key or string that was written is read up to its end, so a line that assigns a
string to a key stands for that assignment, whatever the lines behind it are.
Blocks of such lines can be put one behind the other (`Yields.append`): the
statements of a text are those of its blocks.
-/

/-! ## Keys -/

/-- A character that a key begins with, be it bare or quoted. -/
def beginsKey (character : Char) : Bool :=
  isBare character || character == '"' || character == '\''

/-- No mark that stands between keys and values can be taken for the start of a key. -/
theorem ne_of_beginsKey {character mark : Char} (begins : beginsKey character = true)
    (other : beginsKey mark = false) : character ≠ mark := by
  rintro rfl
  exact absurd begins (by simp [other])

theorem skipBlanks_beginsKey {head : Char} (begins : beginsKey head = true) (tail : Text) :
    skipBlanks (head :: tail) = head :: tail := by
  have noSpace : head ≠ ' ' := ne_of_beginsKey begins (by decide)
  have noTab : head ≠ '\t' := ne_of_beginsKey begins (by decide)
  simp [skipBlanks, isBlankMark, noSpace, noTab]

theorem exists_writeKey (text : Text) :
    exists head tail, writeKey text = head :: tail ∧ beginsKey head = true := by
  simp only [writeKey]
  split
  · next bare =>
      cases text with
      | nil => exact absurd bare (by simp)
      | cons head tail =>
          have bareHead : isBare head = true := by simp_all
          exact ⟨head, tail, rfl, by simp [beginsKey, bareHead]⟩
  split
  · exact ⟨'"', _, rfl, by decide⟩
  split
  · exact ⟨'\'', _, rfl, by decide⟩
  · exact ⟨'"', _, rfl, by decide⟩

/-- A bare key ends where a character follows that no bare key has. -/
theorem keyPart_bare {text : Text} (bare : forall character, character ∈ text ->
      isBare character = true) (notEmpty : text ≠ []) {next : Char} (noBare : isBare next = false)
    (rest : Text) : keyPart (text ++ next :: rest) = some (text, next :: rest) := by
  have word : (text ++ next :: rest).takeWhile isBare = text := by
    simp [List.takeWhile_append_of_pos bare, noBare]
  have behind : (text ++ next :: rest).dropWhile isBare = next :: rest := by
    simp [List.dropWhile_append_of_pos bare, noBare]
  obtain ⟨head, tail, rfl⟩ := List.exists_cons_of_ne_nil notEmpty
  have bareHead := bare head List.mem_cons_self
  rw [List.cons_append, keyPart]
  · rw [← List.cons_append, word, behind]
    rfl
  all_goals
    rintro _ same
    obtain ⟨rfl, -⟩ := List.cons.inj same
    exact absurd bareHead (by decide)

theorem keyPart_writeKey (text : Text) {next : Char} (noBare : isBare next = false) (rest : Text) :
    keyPart (writeKey text ++ next :: rest) = some (text, next :: rest) := by
  simp only [writeKey]
  split
  · next bare =>
      simp only [Bool.and_eq_true, Bool.not_eq_true', List.isEmpty_eq_false_iff,
        List.all_eq_true] at bare
      exact keyPart_bare bare.2 bare.1 noBare rest
  split
  · simp [Form.quote, keyPart, basic_basicBody]
  split
  · next holds =>
      simp only [Bool.and_eq_true, Bool.not_eq_true', List.any_eq_false, Bool.or_eq_true,
        not_or, List.contains_eq_mem, decide_eq_false_iff_not, beq_iff_eq] at holds
      obtain ⟨plain, noQuote⟩ := holds
      have noFeed : '\n' ∉ text := fun member => (plain '\n' member).2 rfl
      simp [Form.quote, keyPart,
        literal_line (fun character member => by simpa using (plain character member).1)
          noQuote noFeed]
  · simp [Form.quote, keyPart, basic_basicBody]

theorem key_writeKey (text : Text) {next : Char} {rest : Text} (noBare : isBare next = false)
    (noDot : (skipBlanks (next :: rest)).head? ≠ some '.') :
    key (writeKey text ++ next :: rest) = some ({ last := text }, skipBlanks (next :: rest)) := by
  obtain ⟨head, tail, same, begins⟩ := exists_writeKey text
  have part := keyPart_writeKey text noBare rest
  have found : keyFrom [] (writeKey text ++ next :: rest) =
      some ({ last := text }, skipBlanks (next :: rest)) := by
    rw [same] at part ⊢
    rw [keyFrom, List.cons_append, skipBlanks_beginsKey begins, ← List.cons_append, part]
    dsimp only
    split
    · next dotted => exact absurd (congrArg List.head? dotted) noDot
    · rfl
  rw [key, found]
  rfl

/-! ## Values -/

theorem exists_writeString (text : Text) :
    exists head tail, writeString text = head :: tail ∧ (head = '"' ∨ head = '\'') := by
  rw [writeString]
  cases formOf text with
  | basic | longBasic => exact ⟨'"', _, rfl, Or.inl rfl⟩
  | literal | longLiteral => exact ⟨'\'', _, rfl, Or.inr rfl⟩

theorem value_writeString (depth : Nat) (text : Text) {rest : Text} (noDouble : IsBehind '"' rest)
    (noSingle : IsBehind '\'' rest) :
    value depth (writeString text ++ rest) = some (.string text, rest) := by
  have isSimple : simple (writeString text ++ rest) = some (.string text, rest) := by
    rw [simple, quoted?_writeString text noDouble noSingle]
    rfl
  cases depth with
  | zero => rwa [value]
  | succ depth =>
      obtain ⟨head, tail, same, quote⟩ := exists_writeString text
      rw [same, List.cons_append] at isSimple ⊢
      rcases quote with rfl | rfl
      · simpa [value] using isSimple
      · simpa [value] using isSimple

theorem skipBlanks_writeString (text rest : Text) :
    skipBlanks (' ' :: (writeString text ++ rest)) = writeString text ++ rest := by
  obtain ⟨head, tail, same, quote⟩ := exists_writeString text
  rw [same]
  rcases quote with rfl | rfl
  · rfl
  · rfl

theorem assignment_written (name text rest : Text) :
    assignment (some ∘ skipBlanks) (value greatestDepth)
        (writeKey name ++ ' ' :: '=' :: ' ' :: (writeString text ++ '\n' :: rest)) =
      some (({ last := name }, .string text), '\n' :: rest) := by
  have readKey : key (writeKey name ++ ' ' :: '=' :: ' ' :: (writeString text ++ '\n' :: rest)) =
      some ({ last := name }, '=' :: ' ' :: (writeString text ++ '\n' :: rest)) :=
    key_writeKey name (by decide) (by simp [skipBlanks, isBlankMark])
  have readValue : value greatestDepth (writeString text ++ '\n' :: rest) =
      some (.string text, '\n' :: rest) :=
    value_writeString greatestDepth text (by simp [IsBehind]) (by simp [IsBehind])
  have equals : skipBlanks ('=' :: ' ' :: (writeString text ++ '\n' :: rest)) =
      '=' :: ' ' :: (writeString text ++ '\n' :: rest) := rfl
  rw [assignment, readKey]
  simp only [Function.comp_apply, equals, Option.bind_some, skipBlanks_writeString, readValue,
    Option.map_some]

/-! ## Lines -/

theorem statement_assignment (name text rest : Text) :
    statement (skipBlanks
        (writeKey name ++ ' ' :: '=' :: ' ' :: (writeString text ++ '\n' :: rest))) =
      some (some (.assignment { last := name } (.string text)), '\n' :: rest) := by
  obtain ⟨head, tail, same, begins⟩ := exists_writeKey name
  have assigned := assignment_written name text rest
  rw [same, List.cons_append] at assigned ⊢
  rw [skipBlanks_beginsKey begins, statement]
  · have noFeed : head ≠ '\n' := ne_of_beginsKey begins (by decide)
    have noReturn : head ≠ '\r' := ne_of_beginsKey begins (by decide)
    have noComment : head ≠ '#' := ne_of_beginsKey begins (by decide)
    simp [noFeed, noReturn, noComment, assigned]
  · intro _ bracket _
    exact ne_of_beginsKey begins (by decide) bracket
  · intro bracket
    exact ne_of_beginsKey begins (by decide) bracket

theorem key_header (name : Text) (rest : Text) :
    key (writeKey name ++ ']' :: rest) = some ({ last := name }, ']' :: rest) :=
  key_writeKey name (by decide) (by simp [skipBlanks, isBlankMark])

theorem statement_table (name rest : Text) :
    statement ('[' :: (writeKey name ++ ']' :: '\n' :: rest)) =
      some (some (.table { last := name }), '\n' :: rest) := by
  have readKey := key_header name ('\n' :: rest)
  obtain ⟨head, tail, same, begins⟩ := exists_writeKey name
  rw [same, List.cons_append] at readKey ⊢
  rw [statement]
  · rw [readKey]
    rfl
  · rintro more same
    exact ne_of_beginsKey begins (by decide) (List.cons.inj same).1

theorem statement_element (name rest : Text) :
    statement ('[' :: '[' :: (writeKey name ++ ']' :: ']' :: '\n' :: rest)) =
      some (some (.element { last := name }), '\n' :: rest) := by
  rw [statement, key_header]
  rfl

/-- Whatever stands behind the block, its statements are read first. -/
def Yields (block : Text) (found : List Statement) : Prop :=
  forall rest, statements (block ++ rest) = (statements rest).map (found ++ ·)

namespace Yields

theorem nil : Yields [] [] := by
  intro rest
  simp

theorem append {front back : Text} {first second : List Statement} (yields : Yields front first)
    (behind : Yields back second) : Yields (front ++ back) (first ++ second) := by
  intro rest
  rw [List.append_assoc, yields, behind, Option.map_map]
  simp [Function.comp_def]

theorem flatMap {Item : Type} {block : Item -> Text} {found : Item -> List Statement}
    (each : forall item, Yields (block item) (found item)) (items : List Item) :
    Yields (items.flatMap block) (items.flatMap found) := by
  induction items with
  | nil => exact nil
  | cons item items ih =>
      rw [List.flatMap_cons, List.flatMap_cons]
      exact (each item).append ih

/-- A line on which one statement stands, or none. -/
theorem line {text : Text} {found : Option Statement}
    (read : forall rest, statement (skipBlanks (text ++ '\n' :: rest)) =
      some (found, '\n' :: rest)) : Yields (text ++ ['\n']) found.toList := by
  intro rest
  have ends : skipLine ('\n' :: rest) = some rest := rfl
  have some : (text ++ '\n' :: rest).isEmpty = false := by simp
  have shorter : rest.length < (text ++ '\n' :: rest).length := by
    simp only [List.length_append, List.length_cons]
    omega
  rw [List.append_assoc, List.singleton_append, statements]
  simp only [some, read, ends, if_pos shorter]
  rfl

theorem blank : Yields ['\n'] [] := by
  have read : forall rest, statement (skipBlanks ([] ++ '\n' :: rest)) =
      some (none, '\n' :: rest) := fun _ => rfl
  exact line read

/-- A line that gives a key a string. -/
theorem assignment (name text : Text) :
    Yields (writeKey name ++ [' ', '=', ' '] ++ writeString text ++ ['\n'])
      [.assignment { last := name } (.string text)] := by
  have read : forall rest,
      statement
          (skipBlanks (writeKey name ++ [' ', '=', ' '] ++ writeString text ++ '\n' :: rest)) =
        some (some (.assignment { last := name } (.string text)), '\n' :: rest) := by
    intro rest
    simpa using statement_assignment name text rest
  exact line read

theorem table (name : Text) :
    Yields (['['] ++ writeKey name ++ [']'] ++ ['\n']) [.table { last := name }] := by
  have read : forall rest,
      statement (skipBlanks (['['] ++ writeKey name ++ [']'] ++ '\n' :: rest)) =
        some (some (.table { last := name }), '\n' :: rest) := by
    intro rest
    simpa [skipBlanks, isBlankMark] using statement_table name rest
  exact line read

theorem element (name : Text) :
    Yields (['[', '['] ++ writeKey name ++ [']', ']'] ++ ['\n']) [.element { last := name }] := by
  have read : forall rest,
      statement (skipBlanks (['[', '['] ++ writeKey name ++ [']', ']'] ++ '\n' :: rest)) =
        some (some (.element { last := name }), '\n' :: rest) := by
    intro rest
    simpa [skipBlanks, isBlankMark] using statement_element name rest
  exact line read

/-- One more block, with a blank line behind it if others follow. -/
theorem intercalate_cons {block : Text} {blocks : List Text} {first others : List Statement}
    (yields : Yields block first) (behind : Yields (List.intercalate ['\n'] blocks) others) :
    Yields (List.intercalate ['\n'] (block :: blocks)) (first ++ others) := by
  cases blocks with
  | nil => simpa using yields.append behind
  | cons next blocks =>
      rw [List.intercalate_cons_cons]
      simpa using (yields.append blank).append behind

/-- The statements of a text are those of its blocks. -/
theorem statements_eq {block : Text} {found : List Statement} (yields : Yields block found) :
    statements block = some found := by
  have whole := yields []
  rw [List.append_nil, statements.eq_def []] at whole
  simpa using whole

end Yields

end Toml
end Lexis
