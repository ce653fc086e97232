import Lexis.Toml.Written

namespace Lexis
namespace Toml

/-!
Quoted texts are read back.

The reader of a form of quoting undoes what the writer did to a text, whatever
follows the closing quotes.  Between tripled quotes a text may hold single quotes
and pairs of them, and those at its end run together with the closing ones, so
the character behind the closing quotes must not be another one.
-/

/-! ## Characters -/

theorem isPrintable_of_not_needsEscape {character : Char} (plain : needsEscape character = false)
    (noFeed : character ≠ '\n') : isPrintable character = true := by
  by_cases tab : character = '\t'
  · subst tab
    rfl
  · simpa [needsEscape, isPrintable, tab, noFeed] using plain

theorem digitValue?_hexDigit : forall value, value < 16 ->
    digitValue? (hexDigit value) = some value := by
  decide

/-- Only characters of one byte are written by their codes. -/
theorem toNat_lt_of_needsEscape {character : Char} (escaped : needsEscape character = true) :
    character.toNat < 128 := by
  simp only [needsEscape, Bool.and_eq_true, Bool.or_eq_true, decide_eq_true_eq, beq_iff_eq]
    at escaped
  rcases escaped.2 with low | rfl
  · exact Nat.lt_trans (UInt32.lt_iff_toNat_lt.mp low) (by decide)
  · decide

/-! ## Basic strings -/

section Basic

variable (multiline : Bool)

theorem basic_plain_cons (head : Char) (tail : Text) :
    basic multiline .plain (head :: tail) =
      if multiline && head = '\r' && tail.head? = some '\n' then basic multiline .plain tail
      else if head = '"' then
        if !multiline then some ([], tail)
        else if closes '"' tail then closing '"' (tail.drop 2)
        else (basic multiline .plain tail).push head
      else if head = '\\' then basic multiline .escape tail
      else if multiline && head = '\n' || isPrintable head then
        (basic multiline .plain tail).push head
      else none := by
  rw [basic.eq_def]
  simp

theorem basic_backslash (tail : Text) :
    basic multiline .plain ('\\' :: tail) = basic multiline .escape tail := by
  simp [basic_plain_cons]

theorem basic_letter {letter character : Char} (isEscape : escaped? letter = some character)
    (tail : Text) : basic multiline .escape (letter :: tail) =
      (basic multiline .plain tail).push character := by
  simp [basic.eq_def multiline .escape, isEscape]

theorem basic_digit {missing value digit : Nat} (inBase : digit < 16) (more : 1 < missing)
    (tail : Text) : basic multiline (.code missing value) (hexDigit digit :: tail) =
      basic multiline (.code (missing - 1) (16 * value + digit)) tail := by
  rw [basic.eq_def]
  simp [digitValue?_hexDigit digit inBase, Nat.not_le_of_lt more]

theorem basic_lastDigit {value digit : Nat} {character : Char} (inBase : digit < 16)
    (code : 16 * value + digit = character.toNat) (tail : Text) :
    basic multiline (.code 1 value) (hexDigit digit :: tail) =
      (basic multiline .plain tail).push character := by
  have valid : (character.toNat).isValidChar := character.valid
  rw [basic.eq_def]
  simp [digitValue?_hexDigit digit inBase, code, ofCode?, valid, Char.ofNat_toNat]

theorem basic_code {character : Char} (small : character.toNat < 256) (tail : Text) :
    basic multiline .escape
        ('u' :: '0' :: '0' :: hexDigit (character.toNat / 16) ::
          hexDigit (character.toNat % 16) :: tail) =
      (basic multiline .plain tail).push character := by
  have high : character.toNat / 16 < 16 := by omega
  have low : character.toNat % 16 < 16 := Nat.mod_lt _ (by decide)
  have zero : hexDigit 0 = '0' := rfl
  have opened : forall text, basic multiline .escape ('u' :: text) =
      basic multiline (.code 4 0) text := by
    intro text
    simp [basic.eq_def multiline .escape, escaped?, codeLength?]
  have code : 16 * (16 * (16 * (16 * 0 + 0) + 0) + character.toNat / 16) + character.toNat % 16 =
      character.toNat := by
    omega
  rw [opened, ← zero, basic_digit multiline (by decide) (by decide),
    basic_digit multiline (by decide) (by decide), basic_digit multiline high (by decide)]
  exact basic_lastDigit multiline low code tail

/-- A character that is no quote and no backslash stands for itself. -/
theorem basic_printable {head : Char} (printable : isPrintable head = true) (noQuote : head ≠ '"')
    (noBackslash : head ≠ '\\') (tail : Text) :
    basic multiline .plain (head :: tail) = (basic multiline .plain tail).push head := by
  have noReturn : head ≠ '\r' := by
    rintro rfl
    exact absurd printable (by decide)
  simp [basic_plain_cons, noReturn, noQuote, noBackslash, printable]

theorem basic_escapeCharacter (character : Char) (rest : Text) :
    basic multiline .plain (escapeCharacter character ++ rest) =
      (basic multiline .plain rest).push character := by
  unfold escapeCharacter
  split
  case h_8 noFeed _ _ noQuote noBackslash =>
    split
    · next escaped =>
        have small := toNat_lt_of_needsEscape escaped
        simp only [List.cons_append, List.nil_append, basic_backslash]
        exact basic_code multiline (by omega) rest
    · next plain =>
        have printable := isPrintable_of_not_needsEscape (Bool.eq_false_iff.mpr plain) noFeed
        exact basic_printable multiline printable noQuote noBackslash rest
  all_goals
    simp only [List.cons_append, List.nil_append, basic_backslash]
    exact basic_letter multiline rfl rest

end Basic

/-- No piece of a basic string begins like the string's end or like a line break. -/
theorem exists_escapeCharacter (character : Char) :
    exists first others, escapeCharacter character = first :: others ∧ first ≠ '"' ∧
      isLineBreak first = false := by
  unfold escapeCharacter
  split
  case h_8 noFeed _ noReturn noQuote noBackslash =>
    split
    · exact ⟨'\\', _, rfl, by decide, by decide⟩
    · exact ⟨character, [], rfl, noQuote, by simpa [isLineBreak] using ⟨noFeed, noReturn⟩⟩
  all_goals exact ⟨'\\', _, rfl, by decide, by decide⟩

/-- Between single quotes every text can be written. -/
theorem basic_basicBody (text rest : Text) :
    basic false .plain (basicBody text ++ '"' :: rest) = some (text, rest) := by
  induction text with
  | nil => simp [basicBody, basic_plain_cons]
  | cons head tail ih =>
      rw [basicBody] at ih
      rw [basicBody, List.flatMap_cons, List.append_assoc, basic_escapeCharacter, ih]
      rfl

/-! ## Tripled quotes -/

/-- The text behind a string does not begin with the quote that closed it. -/
def IsBehind (quote : Char) (rest : Text) : Prop :=
  rest.head? ≠ some quote

/-- The quotes of a text that stand directly before the closing ones belong to it. -/
theorem closing_of_isBehind {quote : Char} {rest : Text} (behind : IsBehind quote rest) :
    closing quote rest = some ([], rest) ∧
      closing quote (quote :: rest) = some ([quote], rest) ∧
      closing quote (quote :: quote :: rest) = some ([quote, quote], rest) := by
  cases rest with
  | nil => simp [closing]
  | cons next more =>
      have other : next ≠ quote := by simpa [IsBehind] using behind
      cases more with
      | nil => simp [closing, other]
      | cons second more => simp [closing, other]

theorem closes_iff {quote : Char} {tail : Text} :
    closes quote tail = true ↔ exists rest, tail = quote :: quote :: rest := by
  rw [closes, Text.opensWith, List.isPrefixOf_iff_prefix]
  constructor
  · rintro ⟨rest, rfl⟩
    exact ⟨rest, rfl⟩
  · rintro ⟨rest, rfl⟩
    exact ⟨rest, rfl⟩

/-- What is written for a character that is not one of the quotes written as themselves. -/
def longPiece (character : Char) : Text :=
  if character = '\n' then ['\n'] else escapeCharacter character

theorem longBody_quote {quotes : Nat} (few : quotes < 2) (tail : Text) :
    longBody quotes ('"' :: tail) = '"' :: longBody (quotes + 1) tail := by
  simp [longBody, few]

theorem longBody_piece {quotes : Nat} {head : Char} (other : ¬ (head = '"' ∧ quotes < 2))
    (tail : Text) : longBody quotes (head :: tail) = longPiece head ++ longBody 0 tail := by
  have notRaw : ¬ (head = '"' && quotes < 2) = true := by simpa using other
  rw [longBody, if_neg notRaw, longPiece]
  split
  · rfl
  · rfl

theorem basic_longPiece (head : Char) (rest : Text) :
    basic true .plain (longPiece head ++ rest) = (basic true .plain rest).push head := by
  rw [longPiece]
  split
  · next feed =>
      subst feed
      simp [basic_plain_cons]
  · exact basic_escapeCharacter true head rest

theorem head?_longPiece (head : Char) (rest : Text) :
    (longPiece head ++ rest).head? ≠ some '"' := by
  rw [longPiece]
  split
  · simp
  · obtain ⟨first, others, same, noQuote, -⟩ := exists_escapeCharacter head
    simpa [same] using noQuote

/-- Only at the end of the text do the quotes written as themselves meet the closing ones. -/
theorem of_closes_longBody {quotes : Nat} {tail rest : Text}
    (isClosed : closes '"' (longBody (quotes + 1) tail ++ rest) = true) :
    tail = [] ∨ tail = ['"'] ∧ quotes = 0 := by
  obtain ⟨more, parts⟩ := closes_iff.mp isClosed
  cases tail with
  | nil => exact Or.inl rfl
  | cons first tail =>
      apply Or.inr
      by_cases raw : first = '"' ∧ quotes + 1 < 2
      · obtain ⟨rfl, few⟩ := raw
        obtain rfl : quotes = 0 := by omega
        cases tail with
        | nil => exact ⟨rfl, rfl⟩
        | cons second tail =>
            rw [longBody_quote few, longBody_piece (by simp), List.cons_append,
              List.append_assoc] at parts
            have head := congrArg List.head? (List.cons.inj parts).2
            exact absurd head (head?_longPiece second _)
      · rw [longBody_piece raw, List.append_assoc] at parts
        exact absurd (congrArg List.head? parts) (head?_longPiece first _)

theorem basic_longBody (text : Text) {rest : Text} (behind : IsBehind '"' rest) (quotes : Nat) :
    basic true .plain (longBody quotes text ++ '"' :: '"' :: '"' :: rest) = some (text, rest) := by
  obtain ⟨none, one, two⟩ := closing_of_isBehind behind
  induction text generalizing quotes with
  | nil => simp [longBody, basic_plain_cons, closes, Text.opensWith, none]
  | cons head tail ih =>
      by_cases raw : head = '"' ∧ quotes < 2
      · obtain ⟨rfl, few⟩ := raw
        rw [longBody_quote few]
        -- a quote of the text can only close the string if it is one of the last two characters
        by_cases isClosed :
            closes '"' (longBody (quotes + 1) tail ++ '"' :: '"' :: '"' :: rest) = true
        · rcases of_closes_longBody isClosed with rfl | ⟨rfl, rfl⟩
          · simp [longBody, basic_plain_cons, closes, Text.opensWith, one]
          · simp [longBody, basic_plain_cons, closes, Text.opensWith, two]
        · simp [basic_plain_cons, isClosed, ih]
          rfl
      · rw [longBody_piece raw, List.append_assoc, basic_longPiece, ih]
        rfl

/-! ## Literal strings -/

/-- A character that is no quote stands for itself, a line break only between tripled quotes. -/
theorem literal_other {multiline : Bool} {head : Char} (noQuote : head ≠ '\'')
    (plain : needsEscape head = false) (inLine : multiline = true ∨ head ≠ '\n') (tail : Text) :
    literal multiline (head :: tail) = (literal multiline tail).push head := by
  rw [literal, if_neg noQuote]
  by_cases feed : head = '\n'
  · subst feed
    simp [inLine.resolve_right (by simp)]
  · have printable := isPrintable_of_not_needsEscape plain feed
    have noReturn : head ≠ '\r' := by
      rintro rfl
      exact absurd printable (by decide)
    simp [feed, noReturn, printable]

theorem literal_line {text : Text} (plain : forall character, character ∈ text ->
      needsEscape character = false) (noQuote : '\'' ∉ text) (noFeed : '\n' ∉ text) (rest : Text) :
    literal false (text ++ '\'' :: rest) = some (text, rest) := by
  induction text with
  | nil => simp [literal]
  | cons head tail ih =>
      obtain ⟨plainHead, plainTail⟩ := List.forall_mem_cons.mp plain
      obtain ⟨otherHead, otherTail⟩ := List.ne_and_not_mem_of_not_mem_cons noQuote
      obtain ⟨inLineHead, inLineTail⟩ := List.ne_and_not_mem_of_not_mem_cons noFeed
      rw [List.cons_append, literal_other otherHead.symm plainHead (Or.inr inLineHead.symm),
        ih plainTail otherTail inLineTail]
      rfl

theorem literal_long {text rest : Text} (plain : forall character, character ∈ text ->
      needsEscape character = false) (noTriple : ¬ ['\'', '\'', '\''] <:+: text)
    (behind : IsBehind '\'' rest) :
    literal true (text ++ ('\'' :: '\'' :: '\'' :: rest)) = some (text, rest) := by
  obtain ⟨none, one, two⟩ := closing_of_isBehind behind
  induction text with
  | nil => simp [literal, closes, Text.opensWith, none]
  | cons head tail ih =>
      have plainTail := (List.forall_mem_cons.mp plain).2
      have noTripleTail : ¬ ['\'', '\'', '\''] <:+: tail := fun inTail =>
        noTriple (inTail.trans (List.suffix_cons head tail).isInfix)
      by_cases quote : head = '\''
      · subst quote
        -- the string is closed early only by a third quote, and the text has no three in a row
        by_cases isClosed : closes '\'' (tail ++ ('\'' :: '\'' :: '\'' :: rest)) = true
        · obtain ⟨more, parts⟩ := closes_iff.mp isClosed
          match tail, parts with
          | [], _ => simp [literal, closes, Text.opensWith, one]
          | [first], parts =>
              obtain ⟨rfl, -⟩ := List.cons.inj parts
              simp [literal, closes, Text.opensWith, two]
          | first :: second :: others, parts =>
              obtain ⟨rfl, behindFirst⟩ := List.cons.inj parts
              obtain ⟨rfl, -⟩ := List.cons.inj behindFirst
              exact absurd ⟨[], others, rfl⟩ noTriple
        · simp [literal, isClosed, ih plainTail noTripleTail]
          rfl
      · have plainHead := (List.forall_mem_cons.mp plain).1
        rw [List.cons_append, literal_other quote plainHead (Or.inl rfl), ih plainTail noTripleTail]
        rfl

/-! ## All forms -/

/-- A run at the start goes on with the run in front of it. -/
theorem le_longestRun_of_isPrefix {wanted : Char} {length : Nat} {text : Text} (current : Nat)
    (run : List.replicate length wanted <+: text) :
    current + length ≤ longestRun wanted current text := by
  induction text generalizing current length with
  | nil =>
      obtain rfl : length = 0 := by simpa using List.prefix_nil.mp run
      exact Nat.le_refl _
  | cons head tail ih =>
      cases length with
      | zero =>
          rw [longestRun]
          split
          · have start : List.replicate 0 wanted <+: tail := List.nil_prefix
            have behind := ih (current + 1) start
            omega
          · exact Nat.le_max_left _ _
      | succ length =>
          obtain ⟨rfl, behind⟩ := List.cons_prefix_cons.mp run
          have rest := ih (current + 1) behind
          rw [longestRun, if_pos rfl]
          omega

theorem le_longestRun_of_isInfix {wanted : Char} {length : Nat} {text : Text} (current : Nat)
    (run : List.replicate length wanted <:+: text) :
    length ≤ longestRun wanted current text := by
  induction text generalizing current with
  | nil =>
      obtain rfl : length = 0 := by simpa using List.infix_nil.mp run
      exact Nat.zero_le _
  | cons head tail ih =>
      rcases List.infix_cons_iff.mp run with atHead | behind
      · exact Nat.le_trans (Nat.le_add_left _ _) (le_longestRun_of_isPrefix current atHead)
      · rw [longestRun]
        split
        · exact ih (current + 1) behind
        · exact Nat.le_trans (ih 0 behind) (Nat.le_max_right _ _)

/-- Texts are written literally only without control characters and long runs of quotes. -/
theorem of_formOf (text : Text) :
    (formOf text = .literal ->
      text.any needsEscape = false ∧ longestRun '\'' 0 text = 0 ∧ '\n' ∉ text) ∧
    (formOf text = .longLiteral ->
      text.any needsEscape = false ∧ longestRun '\'' 0 text ≤ 2) := by
  rw [formOf]
  repeat' split
  all_goals simp_all

theorem of_formOf_literal {text : Text} (isForm : formOf text = .literal) :
    (forall character, character ∈ text -> needsEscape character = false) ∧ '\'' ∉ text ∧
      '\n' ∉ text := by
  obtain ⟨plain, noQuotes, noFeed⟩ := (of_formOf text).1 isForm
  refine ⟨fun character member => ?_, fun member => ?_, noFeed⟩
  · exact Bool.eq_false_iff.mpr (List.any_eq_false.mp plain character member)
  · obtain ⟨front, back, rfl⟩ := List.append_of_mem member
    have run : List.replicate 1 '\'' <:+: front ++ '\'' :: back := ⟨front, back, by simp⟩
    exact absurd (le_longestRun_of_isInfix 0 run) (by omega)

theorem of_formOf_longLiteral {text : Text} (isForm : formOf text = .longLiteral) :
    (forall character, character ∈ text -> needsEscape character = false) ∧
      ¬ ['\'', '\'', '\''] <:+: text := by
  obtain ⟨plain, few⟩ := (of_formOf text).2 isForm
  refine ⟨fun character member => ?_, fun run => ?_⟩
  · exact Bool.eq_false_iff.mpr (List.any_eq_false.mp plain character member)
  · have long : 3 ≤ longestRun '\'' 0 text := le_longestRun_of_isInfix 0 run
    omega

theorem skipFirstBreak_firstBreak (text : Text) {body : Text}
    (inLine : '\n' ∉ text -> body.head?.any isLineBreak = false) :
    skipFirstBreak (firstBreak text ++ body) = body := by
  rw [firstBreak]
  split
  · rfl
  · next noFeed =>
      have noFeed : '\n' ∉ text := by simpa using noFeed
      have inLine := inLine noFeed
      rw [List.nil_append]
      fun_cases skipFirstBreak body with
      | case1 => exact absurd inLine (by simp [isLineBreak])
      | case2 => exact absurd inLine (by simp [isLineBreak])
      | case3 => rfl

theorem quoted?_basic {tail : Text} (single : ¬ closes '"' tail = true) :
    quoted? ('"' :: tail) = some (basic false .plain tail) := by
  rw [quoted?]
  rintro more rfl
  exact single (closes_iff.mpr ⟨more, rfl⟩)

theorem quoted?_literal {tail : Text} (single : ¬ closes '\'' tail = true) :
    quoted? ('\'' :: tail) = some (literal false tail) := by
  rw [quoted?]
  rintro more rfl
  exact single (closes_iff.mpr ⟨more, rfl⟩)

/-- A single closing quote is not taken for two of three opening ones. -/
theorem not_closes_basicBody (text : Text) {rest : Text} (behind : IsBehind '"' rest) :
    ¬ closes '"' (basicBody text ++ '"' :: rest) = true := by
  intro isClosed
  obtain ⟨more, parts⟩ := closes_iff.mp isClosed
  cases text with
  | nil => exact behind (congrArg List.head? (List.cons.inj parts).2)
  | cons head tail =>
      obtain ⟨first, others, same, noQuote, -⟩ := exists_escapeCharacter head
      rw [basicBody, List.flatMap_cons, same] at parts
      exact noQuote (List.cons.inj parts).1

theorem not_closes_literal {text rest : Text} (noQuote : '\'' ∉ text)
    (behind : IsBehind '\'' rest) :
    ¬ closes '\'' (text ++ '\'' :: rest) = true := by
  intro isClosed
  obtain ⟨more, parts⟩ := closes_iff.mp isClosed
  cases text with
  | nil => exact behind (congrArg List.head? (List.cons.inj parts).2)
  | cons head tail => exact noQuote ((List.cons.inj parts).1 ▸ List.mem_cons_self)

/-- A body without line feeds does not begin with a line break. -/
theorem head?_longBody {text : Text} (noFeed : '\n' ∉ text) (rest : Text) :
    (longBody 0 text ++ '"' :: rest).head?.any isLineBreak = false := by
  cases text with
  | nil => rfl
  | cons head tail =>
      by_cases raw : head = '"' ∧ 0 < 2
      · rw [raw.1, longBody_quote raw.2]
        rfl
      · obtain ⟨first, others, same, -, inLine⟩ := exists_escapeCharacter head
        have other : head ≠ '\n' := (List.ne_of_not_mem_cons noFeed).symm
        rw [longBody_piece raw, longPiece, if_neg other, same]
        simpa using inLine

/-- A text without line feeds that needs no escapes does not begin with a line break. -/
theorem head?_literal {text : Text} (plain : forall character, character ∈ text ->
      needsEscape character = false) (noFeed : '\n' ∉ text) (rest : Text) :
    (text ++ '\'' :: rest).head?.any isLineBreak = false := by
  cases text with
  | nil => rfl
  | cons head tail =>
      have other : head ≠ '\n' := (List.ne_of_not_mem_cons noFeed).symm
      have noReturn : head ≠ '\r' := by
        rintro rfl
        exact absurd (plain '\r' List.mem_cons_self) (by decide)
      simp [isLineBreak, other, noReturn]

theorem quoted?_longBasic (text : Text) {rest : Text} (behind : IsBehind '"' rest) :
    quoted? (Form.longBasic.quote text ++ rest) = some (some (text, rest)) := by
  simp only [Form.quote, List.cons_append, List.nil_append, List.append_assoc]
  rw [quoted?, skipFirstBreak_firstBreak text fun noFeed => head?_longBody noFeed _,
    basic_longBody text behind 0]

theorem quoted?_longLiteral {text rest : Text} (plain : forall character, character ∈ text ->
      needsEscape character = false) (noTriple : ¬ ['\'', '\'', '\''] <:+: text)
    (behind : IsBehind '\'' rest) :
    quoted? (Form.longLiteral.quote text ++ rest) = some (some (text, rest)) := by
  simp only [Form.quote, List.cons_append, List.nil_append, List.append_assoc]
  rw [quoted?, skipFirstBreak_firstBreak text fun noFeed => head?_literal plain noFeed _,
    literal_long plain noTriple behind]

/-- A text is read back from the form it is written in, up to where its quotes close. -/
theorem quoted?_writeString (text : Text) {rest : Text} (noDouble : IsBehind '"' rest)
    (noSingle : IsBehind '\'' rest) :
    quoted? (writeString text ++ rest) = some (some (text, rest)) := by
  rw [writeString]
  cases isForm : formOf text with
  | basic =>
      simp only [Form.quote, List.cons_append, List.append_assoc, List.nil_append]
      rw [quoted?_basic (not_closes_basicBody text noDouble), basic_basicBody]
  | literal =>
      obtain ⟨plain, noQuote, noFeed⟩ := of_formOf_literal isForm
      simp only [Form.quote, List.cons_append, List.append_assoc, List.nil_append]
      rw [quoted?_literal (not_closes_literal noQuote noSingle), literal_line plain noQuote noFeed]
  | longBasic => exact quoted?_longBasic text noDouble
  | longLiteral =>
      obtain ⟨plain, noTriple⟩ := of_formOf_longLiteral isForm
      exact quoted?_longLiteral plain noTriple noSingle

end Toml
end Lexis
