import Lexis.Grammar.Numeral
import Lexis.Proofs.Text.LongestMatch

namespace Lexis
namespace Numeral

/-!
The language of numbers.

The numbers of source text are described by a regular expression, and the reader
of numbers takes the longest front of a text that it matches
(`isLongestMatch_cut`).  The two marks that the reader of decimal digits keeps
tell what the rest of a number may still look like; each of these languages is
given by the others (`matches_rest`, `matches_behindDigits`), and the reader goes
from one to the other character by character.
-/

/-! ## Patterns -/

def decimalDigits : Text := ['0', '1', '2', '3', '4', '5', '6', '7', '8', '9']

def hexadecimalDigits : Text :=
  decimalDigits ++ ['a', 'b', 'c', 'd', 'e', 'f', 'A', 'B', 'C', 'D', 'E', 'F']

def octalDigits : Text := ['0', '1', '2', '3', '4', '5', '6', '7']

def binaryDigits : Text := ['0', '1']

/-- Digits and underscores in any order, or none. -/
def digitRun (digits : Text) : RegularExpression Char :=
  (anyOf ('_' :: digits)).star

/-- A decimal digit and what may follow it in a run. -/
def wholePart : RegularExpression Char :=
  anyOf decimalDigits * digitRun decimalDigits

def fraction : RegularExpression Char :=
  anyOf ['.'] * wholePart

def exponent : RegularExpression Char :=
  anyOf ['e', 'E'] * (1 + anyOf ['+', '-']) * digitRun decimalDigits

/-- Each of the three parts of a decimal number may be missing. -/
def decimalPattern : RegularExpression Char :=
  (1 + wholePart) * (1 + fraction) * (1 + exponent)

/-- A zero, the mark of a base, and digits of the base. -/
def markedPattern (marks digits : Text) : RegularExpression Char :=
  anyOf ['0'] * anyOf marks * digitRun digits

/-- The numbers with a base mark. -/
def basedPattern (octal : Bool) : RegularExpression Char :=
  markedPattern ['x', 'X'] hexadecimalDigits + markedPattern ['b', 'B'] binaryDigits +
    if octal then markedPattern ['o', 'O'] octalDigits else 0

/-- The numbers of a language, with or without the base eight. -/
def pattern (octal : Bool) : RegularExpression Char :=
  basedPattern octal + decimalPattern

/-- A property of the characters of a list is tested one by one. -/
theorem forall_mem_of_all {characters : Text} {property : Char -> Prop} [DecidablePred property]
    (all : characters.all (fun character => decide (property character)) = true) :
    forall character, character ∈ characters -> property character :=
  fun character member => of_decide_eq_true (List.all_eq_true.mp all character member)

/-! ## What may follow -/

/-- What may follow the digits of a number that already has some of its parts. -/
def behindDigits (hasFraction hasExponent : Bool) : RegularExpression Char :=
  (if hasFraction || hasExponent then 1 else 1 + fraction) *
    if hasExponent then 1 else 1 + exponent

/-- What may follow the characters of a number that already has some of its parts. -/
def rest (hasFraction hasExponent : Bool) : RegularExpression Char :=
  digitRun decimalDigits * behindDigits hasFraction hasExponent

/-- A sign may follow the mark of an exponent, and then digits. -/
def behindMark (hasFraction : Bool) : RegularExpression Char :=
  (1 + anyOf ['+', '-']) * rest hasFraction true

/-- Behind the mark of an exponent the same follows with a fraction and without one. -/
theorem matches_exponent (hasFraction : Bool) :
    exponent.matches' = (anyOf ['e', 'E']).matches' * (behindMark hasFraction).matches' := by
  simp only [exponent, behindMark, rest, behindDigits, Bool.or_true, if_true,
    RegularExpression.matches'_mul, RegularExpression.matches'_add,
    RegularExpression.matches'_epsilon, mul_one, mul_assoc]

/-- Behind the point of a fraction there is a digit, and then an exponent may follow. -/
theorem matches_fraction_mul :
    fraction.matches' * (1 + exponent.matches') =
      (anyOf ['.']).matches' * (anyOf decimalDigits * rest true false).matches' := by
  simp only [rest, behindDigits, fraction, wholePart, RegularExpression.matches'_mul,
    RegularExpression.matches'_add, RegularExpression.matches'_epsilon, Bool.or_false, if_true,
    Bool.false_eq_true, if_false, one_mul, mul_assoc]

/-- Behind the digits nothing follows, or one more part does. -/
theorem matches_behindDigits (hasFraction hasExponent : Bool) :
    (behindDigits hasFraction hasExponent).matches' =
      1 +
        (if hasFraction || hasExponent then 0
          else (anyOf ['.']).matches' * (anyOf decimalDigits * rest true hasExponent).matches') +
        if hasExponent then 0
          else (anyOf ['e', 'E']).matches' * (behindMark hasFraction).matches' := by
  cases hasExponent with
  | true =>
      simp only [behindDigits, Bool.or_true, if_true, RegularExpression.matches'_mul,
        RegularExpression.matches'_epsilon, mul_one, add_zero]
  | false =>
      cases hasFraction with
      | true =>
          simp only [behindDigits, Bool.or_false, if_true, Bool.false_eq_true, if_false,
            RegularExpression.matches'_mul, RegularExpression.matches'_add,
            RegularExpression.matches'_epsilon, one_mul, add_zero, matches_exponent true]
      | false =>
          change (1 + fraction.matches') * (1 + exponent.matches') =
            1 + (anyOf ['.']).matches' * (anyOf decimalDigits * rest true false).matches' +
              (anyOf ['e', 'E']).matches' * (behindMark false).matches'
          rw [add_mul, one_mul, matches_fraction_mul, matches_exponent false, add_right_comm]

theorem matches_rest (hasFraction hasExponent : Bool) :
    (rest hasFraction hasExponent).matches' =
      (behindDigits hasFraction hasExponent).matches' +
        (anyOf ('_' :: decimalDigits)).matches' * (rest hasFraction hasExponent).matches' := by
  have unrolled := matches_star (anyOf ('_' :: decimalDigits))
  simp only [rest, digitRun, RegularExpression.matches'_mul]
  conv_lhs => rw [unrolled]
  rw [add_mul, one_mul, mul_assoc]

theorem nil_mem_rest (hasFraction hasExponent : Bool) :
    [] ∈ (rest hasFraction hasExponent).matches' := by
  rw [matches_rest, matches_behindDigits, add_assoc, add_assoc, Language.mem_add, Language.mem_one]
  exact Or.inl rfl

variable {hasFraction hasExponent : Bool} {head : Char} {tail text : Text}

theorem cons_mem_behindDigits :
    head :: tail ∈ (behindDigits hasFraction hasExponent).matches' <->
      (hasFraction || hasExponent) = false ∧ head = '.' ∧
          tail ∈ (anyOf decimalDigits * rest true hasExponent).matches' ∨
        hasExponent = false ∧ head ∈ ['e', 'E'] ∧ tail ∈ (behindMark hasFraction).matches' := by
  rw [matches_behindDigits, Language.mem_add, Language.mem_add, Language.mem_one]
  cases hasFraction <;> cases hasExponent <;>
    simp only [Bool.or_true, Bool.or_false, if_true, if_false, Bool.false_eq_true,
      Bool.true_eq_false, cons_mem_anyOf_mul, List.mem_singleton, reduceCtorEq,
      Language.notMem_zero, false_and, true_and, false_or, or_false]

theorem cons_mem_rest :
    head :: tail ∈ (rest hasFraction hasExponent).matches' <->
      head :: tail ∈ (behindDigits hasFraction hasExponent).matches' ∨
        head ∈ '_' :: decimalDigits ∧ tail ∈ (rest hasFraction hasExponent).matches' := by
  conv_lhs => rw [matches_rest]
  rw [Language.mem_add, cons_mem_anyOf_mul]

theorem mem_behindMark :
    text ∈ (behindMark hasFraction).matches' <->
      text ∈ (rest hasFraction true).matches' ∨
        text ∈ (anyOf ['+', '-'] * rest hasFraction true).matches' := by
  rw [behindMark, RegularExpression.matches'_mul, RegularExpression.matches'_add,
    RegularExpression.matches'_epsilon, add_mul, one_mul, Language.mem_add,
    RegularExpression.matches'_mul]

theorem notMem_behindDigits_of_digit (digit : head ∈ '_' :: decimalDigits) :
    head :: tail ∉ (behindDigits hasFraction hasExponent).matches' := by
  have others : forall character, character ∈ '_' :: decimalDigits ->
      character ≠ '.' ∧ character ∉ ['e', 'E'] := forall_mem_of_all (by decide)
  rcases others head digit with ⟨notPoint, notMark⟩
  rw [cons_mem_behindDigits]
  simp only [notPoint, notMark, false_and, and_false, or_false, not_false_eq_true]

/-- A digit or underscore changes nothing on what may follow. -/
theorem cons_mem_rest_of_digit (digit : head ∈ '_' :: decimalDigits) :
    head :: tail ∈ (rest hasFraction hasExponent).matches' <->
      tail ∈ (rest hasFraction hasExponent).matches' := by
  rw [cons_mem_rest, or_iff_right (notMem_behindDigits_of_digit digit), and_iff_right digit]

theorem matches_decimalPattern :
    decimalPattern.matches' =
      (behindDigits false false).matches' +
        (anyOf decimalDigits).matches' * (rest false false).matches' := by
  simp only [decimalPattern, behindDigits, rest, wholePart, Bool.or_false, Bool.false_eq_true,
    if_false, RegularExpression.matches'_add, RegularExpression.matches'_mul,
    RegularExpression.matches'_epsilon, mul_assoc]
  rw [add_mul, one_mul, mul_assoc]

/-- Behind a fraction's point there is a digit. -/
theorem cons_mem_rest_of_point :
    '.' :: tail ∈ (rest false false).matches' <->
      tail ∈ (anyOf decimalDigits * rest true false).matches' := by
  have notDigit : '.' ∉ '_' :: decimalDigits := by decide
  have notMark : '.' ∉ ['e', 'E'] := by decide
  rw [cons_mem_rest, cons_mem_behindDigits]
  simp only [notDigit, notMark, false_and, and_false, or_false, true_and, Bool.or_false]

theorem cons_mem_rest_of_mark (mark : head ∈ ['e', 'E']) :
    head :: tail ∈ (rest hasFraction false).matches' <->
      tail ∈ (behindMark hasFraction).matches' := by
  have others : forall character, character ∈ ['e', 'E'] ->
      character ≠ '.' ∧ character ∉ '_' :: decimalDigits := forall_mem_of_all (by decide)
  rcases others head mark with ⟨notPoint, notDigit⟩
  rw [cons_mem_rest, cons_mem_behindDigits]
  simp only [notPoint, notDigit, mark, false_and, and_false, or_false, false_or, true_and]

/-- Behind an exponent's mark only digits follow, so a sign there is taken for itself. -/
theorem cons_mem_behindMark_of_sign (sign : head ∈ ['+', '-']) :
    head :: tail ∈ (behindMark hasFraction).matches' <->
      tail ∈ (rest hasFraction true).matches' := by
  have others : forall character, character ∈ ['+', '-'] ->
      character ∉ '_' :: decimalDigits := forall_mem_of_all (by decide)
  rw [mem_behindMark, cons_mem_rest, cons_mem_behindDigits]
  simp only [RegularExpression.matches'_mul, cons_mem_anyOf_mul, others head sign, sign,
    Bool.or_true, Bool.true_eq_false, false_and, false_or, true_and]

theorem cons_mem_behindMark_of_other (other : head ∉ ['+', '-']) :
    head :: tail ∈ (behindMark hasFraction).matches' <->
      head :: tail ∈ (rest hasFraction true).matches' := by
  rw [mem_behindMark, RegularExpression.matches'_mul, cons_mem_anyOf_mul]
  simp only [other, false_and, or_false]

theorem nil_mem_behindMark (hasFraction : Bool) : [] ∈ (behindMark hasFraction).matches' :=
  mem_behindMark.mpr (Or.inl (nil_mem_rest hasFraction true))

/-! ## Classes of characters -/

/-- A class of small characters is looked through by their codes. -/
theorem inClass_iff {inClass : Char -> Bool} {characters : Text}
    (small : forall character, inClass character = true -> character ≤ 'z')
    (only : forall code, code < 128 -> inClass (Char.ofNat code) = true ->
      Char.ofNat code ∈ characters)
    (all : characters.all inClass = true) (character : Char) :
    inClass character = true <-> character ∈ characters := by
  constructor
  · intro inside
    have bound : character.toNat < 128 :=
      Nat.lt_of_le_of_lt (small character inside) (by decide)
    have member := only character.toNat bound
    rw [Char.ofNat_toNat] at member
    exact member inside
  · exact List.all_eq_true.mp all character

theorem isDigit_iff {character : Char} : isDigit character = true <-> character ∈ decimalDigits := by
  refine inClass_iff ?_ (by decide +kernel) (by decide) character
  intro digit isDigit
  exact Char.le_trans (of_decide_eq_true (Bool.and_eq_true_iff.mp isDigit).2) (by decide)

theorem le_of_isDigitIn {base : Nat} {character : Char} (digit : isDigitIn base character = true) :
    character ≤ 'z' := by
  unfold isDigitIn digitValue? at digit
  split at digit
  · next decimal =>
      exact Char.le_trans (of_decide_eq_true (Bool.and_eq_true_iff.mp decimal).2) (by decide)
  split at digit
  · next lower =>
      exact Char.le_trans (of_decide_eq_true (Bool.and_eq_true_iff.mp lower).2) (by decide)
  split at digit
  · next upper =>
      exact Char.le_trans (of_decide_eq_true (Bool.and_eq_true_iff.mp upper).2) (by decide)
  · exact absurd digit (by simp)

theorem isDigitIn_sixteen {character : Char} :
    isDigitIn 16 character = true <-> character ∈ hexadecimalDigits :=
  inClass_iff (fun _ => le_of_isDigitIn) (by decide +kernel) (by decide) character

theorem isDigitIn_eight {character : Char} :
    isDigitIn 8 character = true <-> character ∈ octalDigits :=
  inClass_iff (fun _ => le_of_isDigitIn) (by decide +kernel) (by decide) character

theorem isDigitIn_two {character : Char} :
    isDigitIn 2 character = true <-> character ∈ binaryDigits :=
  inClass_iff (fun _ => le_of_isDigitIn) (by decide +kernel) (by decide) character

theorem isDigitOrUnderscore_iff {character : Char} :
    (isDigit character || character == '_') = true <-> character ∈ '_' :: decimalDigits := by
  rw [Bool.or_eq_true, isDigit_iff, beq_iff_eq, List.mem_cons, or_comm]

theorem isExponentMark_iff {character : Char} :
    isExponentMark character = true <-> character ∈ ['e', 'E'] := by
  simp [isExponentMark]

theorem isSign_iff {character : Char} : isSign character = true <-> character ∈ ['+', '-'] := by
  simp [isSign]

/-! ## The reader -/

/-- The reader of decimal digits takes as much as may follow. -/
theorem isLongestMatch_decimal (hasFraction hasExponent : Bool) (text : Text) :
    IsLongestMatch (rest hasFraction hasExponent) text
      (decimal hasFraction hasExponent text).taken := by
  fun_induction decimal hasFraction hasExponent text with
  | case1 => exact isLongestMatch_of_nil (nil_mem_rest _ _)
  | case2 hasFraction hasExponent head tail digit ih =>
      exact ih.cons fun other _ => cons_mem_rest_of_digit (isDigitOrUnderscore_iff.mp digit)
  | case3 hasFraction hasExponent head tail _ point ih =>
      simp only [Bool.and_eq_true, beq_iff_eq, Bool.not_eq_true'] at point
      rcases point with ⟨⟨⟨rfl, rfl⟩, rfl⟩, digit⟩
      cases tail with
      | nil => exact absurd digit (by simp)
      | cons first tail =>
          have isFirst : first ∈ decimalDigits := isDigit_iff.mp digit
          have behind := ih.begins isFirst (nil_mem_rest true false) fun other =>
            cons_mem_rest_of_digit (List.mem_cons_of_mem _ isFirst)
          exact behind.cons fun other _ => cons_mem_rest_of_point
  | case4 hasFraction hasExponent head _ mark =>
      simp only [Bool.and_eq_true, Bool.not_eq_true', isExponentMark_iff] at mark
      rcases mark with ⟨isMark, rfl⟩
      have behind : IsLongestMatch (behindMark hasFraction) [] [] :=
        isLongestMatch_of_nil (nil_mem_behindMark hasFraction)
      exact behind.cons fun other _ => cons_mem_rest_of_mark isMark
  | case5 hasFraction hasExponent head _ mark sign tail isSign _ ih =>
      simp only [Bool.and_eq_true, Bool.not_eq_true', isExponentMark_iff] at mark
      rcases mark with ⟨isMark, rfl⟩
      have behind : IsLongestMatch (behindMark hasFraction) (sign :: tail) _ :=
        ih.cons fun other _ => cons_mem_behindMark_of_sign (isSign_iff.mp isSign)
      exact behind.cons fun other _ => cons_mem_rest_of_mark isMark
  | case6 hasFraction hasExponent head _ mark next tail notSign _ ih =>
      simp only [Bool.and_eq_true, Bool.not_eq_true', isExponentMark_iff] at mark
      rcases mark with ⟨isMark, rfl⟩
      apply IsLongestMatch.cons (ih.congr ?_) fun other _ => cons_mem_rest_of_mark isMark
      intro other inText
      cases other with
      | nil => exact iff_of_true (nil_mem_behindMark _) (nil_mem_rest _ _)
      | cons first more =>
          rcases List.cons_prefix_cons.mp inText with ⟨rfl, -⟩
          exact cons_mem_behindMark_of_other (mt isSign_iff.mpr notSign)
  | case7 hasFraction hasExponent head tail notDigit notPoint notMark =>
      apply isLongestMatch_nil _ (nil_mem_rest _ _)
      intro first more inText matched
      rcases List.cons_prefix_cons.mp inText with ⟨rfl, inTail⟩
      rcases cons_mem_rest.mp matched with part | ⟨digit, -⟩
      · rcases cons_mem_behindDigits.mp part with ⟨free, rfl, digits⟩ | ⟨free, mark, -⟩
        · cases more with
          | nil => exact absurd digits nil_notMem_anyOf_mul
          | cons digit others =>
              rcases inTail with ⟨behind, rfl⟩
              have isDigit := isDigit_iff.mpr (cons_mem_anyOf_mul.mp digits).1
              rw [Bool.or_eq_false_iff] at free
              exact notPoint (by simp [free, isDigit])
        · exact notMark (by rw [isExponentMark_iff.mpr mark, free]; rfl)
      · exact notDigit (isDigitOrUnderscore_iff.mpr digit)

/-! ## Numbers with a base mark -/

theorem base?_eq_some_iff {octal : Bool} {mark : Char} {base : Nat} :
    base? octal mark = some base <->
      mark ∈ ['x', 'X'] ∧ base = 16 ∨ mark ∈ ['b', 'B'] ∧ base = 2 ∨
        octal = true ∧ mark ∈ ['o', 'O'] ∧ base = 8 := by
  have apart : forall character, character ∈ ['x', 'X'] ->
      character ∉ ['b', 'B'] ∧ character ∉ ['o', 'O'] := forall_mem_of_all (by decide)
  have others : forall character, character ∈ ['b', 'B'] -> character ∉ ['o', 'O'] :=
    forall_mem_of_all (by decide)
  have marks : forall lower upper, (mark == lower || mark == upper) = true <->
      mark ∈ [lower, upper] := by simp
  simp only [base?, Bool.and_eq_true, marks]
  by_cases sixteen : mark ∈ ['x', 'X']
  · simp only [sixteen, apart mark sixteen, if_true, true_and, false_and, and_false, or_false,
      Option.some.injEq, eq_comm]
  · by_cases two : mark ∈ ['b', 'B']
    · simp only [sixteen, two, others mark two, if_true, if_false, true_and, false_and, and_false,
        or_false, false_or, Option.some.injEq, eq_comm]
    · by_cases eight : octal = true ∧ mark ∈ ['o', 'O']
      · simp only [sixteen, two, eight, and_self, if_true, if_false, true_and, false_and, false_or,
          Option.some.injEq, eq_comm]
      · simp only [sixteen, two, if_false, false_and, false_or, if_neg eight, reduceCtorEq,
          false_iff]
        exact fun marked => eight ⟨marked.1, marked.2.1⟩

theorem mem_markedPattern {marks digits text : Text} :
    text ∈ (markedPattern marks digits).matches' <->
      exists mark more, text = '0' :: mark :: more ∧ mark ∈ marks ∧
        forall digit, digit ∈ more -> digit ∈ '_' :: digits := by
  have parts : (markedPattern marks digits).matches' =
      (anyOf ['0']).matches' * (anyOf marks * digitRun digits).matches' :=
    mul_assoc _ _ _
  rw [parts]
  constructor
  · intro matched
    match text with
    | [] => exact absurd matched nil_notMem_anyOf_mul
    | [_] => exact absurd (cons_mem_anyOf_mul.mp matched).2 nil_notMem_anyOf_mul
    | zero :: mark :: more =>
        rcases cons_mem_anyOf_mul.mp matched with ⟨isZero, behind⟩
        rcases cons_mem_anyOf_mul.mp behind with ⟨isMark, areDigits⟩
        obtain rfl := List.mem_singleton.mp isZero
        exact ⟨mark, more, rfl, isMark, mem_star_anyOf.mp areDigits⟩
  · rintro ⟨mark, more, rfl, isMark, areDigits⟩
    apply cons_mem_anyOf_mul.mpr ⟨List.mem_singleton.mpr rfl, ?_⟩
    exact cons_mem_anyOf_mul.mpr ⟨isMark, mem_star_anyOf.mpr areDigits⟩

/-- The digits behind a base mark are those of the base. -/
theorem mem_basedPattern {octal : Bool} {text : Text} :
    text ∈ (basedPattern octal).matches' <->
      exists mark more base, text = '0' :: mark :: more ∧ base? octal mark = some base ∧
        forall digit, digit ∈ more -> (digit == '_' || isDigitIn base digit) = true := by
  have octals : text ∈ (if octal then markedPattern ['o', 'O'] octalDigits else 0).matches' <->
      octal = true ∧ text ∈ (markedPattern ['o', 'O'] octalDigits).matches' := by
    cases octal <;> simp [Language.notMem_zero]
  rw [basedPattern, RegularExpression.matches'_add, RegularExpression.matches'_add,
    Language.mem_add, Language.mem_add, octals]
  simp only [mem_markedPattern, base?_eq_some_iff, Bool.or_eq_true, beq_iff_eq, List.mem_cons]
  constructor
  · rintro ((⟨mark, more, rfl, isMark, areDigits⟩ | ⟨mark, more, rfl, isMark, areDigits⟩) |
      ⟨octal, mark, more, rfl, isMark, areDigits⟩)
    · refine ⟨mark, more, 16, rfl, Or.inl ⟨isMark, rfl⟩, fun digit member => ?_⟩
      exact (areDigits digit member).imp_right isDigitIn_sixteen.mpr
    · refine ⟨mark, more, 2, rfl, Or.inr (Or.inl ⟨isMark, rfl⟩), fun digit member => ?_⟩
      exact (areDigits digit member).imp_right isDigitIn_two.mpr
    · refine ⟨mark, more, 8, rfl, Or.inr (Or.inr ⟨octal, isMark, rfl⟩), fun digit member => ?_⟩
      exact (areDigits digit member).imp_right isDigitIn_eight.mpr
  · rintro ⟨mark, more, base, rfl, ⟨isMark, rfl⟩ | ⟨isMark, rfl⟩ | ⟨octal, isMark, rfl⟩,
      areDigits⟩
    · refine Or.inl (Or.inl ⟨mark, more, rfl, isMark, fun digit member => ?_⟩)
      exact (areDigits digit member).imp_right isDigitIn_sixteen.mp
    · refine Or.inl (Or.inr ⟨mark, more, rfl, isMark, fun digit member => ?_⟩)
      exact (areDigits digit member).imp_right isDigitIn_two.mp
    · refine Or.inr ⟨octal, mark, more, rfl, isMark, fun digit member => ?_⟩
      exact (areDigits digit member).imp_right isDigitIn_eight.mp

/-! ## Numbers -/

/-- A number can begin with a digit, or with a point before a digit. -/
def begins : Text -> Bool
  | [] => false
  | head :: tail => isDigit head || head == '.' && tail.head?.any isDigit

theorem cons_mem_decimalPattern_of_digit (digit : head ∈ decimalDigits) :
    head :: tail ∈ decimalPattern.matches' <-> tail ∈ (rest false false).matches' := by
  have notBehind : head :: tail ∉ (behindDigits false false).matches' :=
    notMem_behindDigits_of_digit (List.mem_cons_of_mem '_' digit)
  rw [matches_decimalPattern, Language.mem_add, cons_mem_anyOf_mul, or_iff_right notBehind,
    and_iff_right digit]

theorem cons_mem_decimalPattern_of_point :
    '.' :: tail ∈ decimalPattern.matches' <->
      tail ∈ (anyOf decimalDigits * rest true false).matches' := by
  have notDigit : '.' ∉ decimalDigits := by decide
  have notMark : '.' ∉ ['e', 'E'] := by decide
  rw [matches_decimalPattern, Language.mem_add, cons_mem_anyOf_mul, cons_mem_behindDigits]
  simp only [notDigit, notMark, false_and, and_false, or_false, true_and, Bool.or_false]

/-- Where no base mark stands behind the first digit, the number is a decimal one. -/
theorem isLongestMatch_of_digit {octal : Bool} (digit : head ∈ decimalDigits)
    (notBased : forall other, other <+: tail -> head :: other ∉ (basedPattern octal).matches') :
    IsLongestMatch (pattern octal) (head :: tail) (head :: (decimal false false tail).taken) := by
  apply (isLongestMatch_decimal false false tail).cons
  intro other inTail
  rw [pattern, RegularExpression.matches'_add, Language.mem_add,
    or_iff_right (notBased other inTail), cons_mem_decimalPattern_of_digit digit]

theorem isLongestMatch_of_point {octal : Bool} (digit : head ∈ decimalDigits) :
    IsLongestMatch (pattern octal) ('.' :: head :: tail)
      ('.' :: (decimal true false (head :: tail)).taken) := by
  have inRun := List.mem_cons_of_mem '_' digit
  have behind := (isLongestMatch_decimal true false (head :: tail)).begins digit
    (nil_mem_rest true false) fun _ => cons_mem_rest_of_digit inRun
  apply behind.cons
  intro other _
  have notBased : '.' :: other ∉ (basedPattern octal).matches' := by
    rw [mem_basedPattern]
    rintro ⟨mark, more, base, same, -⟩
    exact absurd (List.cons.inj same).1 (by decide)
  rw [pattern, RegularExpression.matches'_add, Language.mem_add, or_iff_right notBased,
    cons_mem_decimalPattern_of_point]

/-- A zero before a base mark is a decimal number by itself. -/
theorem notMem_decimalPattern_of_mark {octal : Bool} {mark : Char} {base : Nat}
    (found : base? octal mark = some base) : '0' :: mark :: tail ∉ decimalPattern.matches' := by
  have letter : mark ∈ ['x', 'X'] ++ (['b', 'B'] ++ ['o', 'O']) := by
    rcases base?_eq_some_iff.mp found with ⟨isMark, -⟩ | ⟨isMark, -⟩ | ⟨-, isMark, -⟩
    · exact List.mem_append_left _ isMark
    · exact List.mem_append_right _ (List.mem_append_left _ isMark)
    · exact List.mem_append_right _ (List.mem_append_right _ isMark)
  have others : forall character, character ∈ ['x', 'X'] ++ (['b', 'B'] ++ ['o', 'O']) ->
      character ≠ '.' ∧ character ∉ ['e', 'E'] ∧ character ∉ '_' :: decimalDigits :=
    forall_mem_of_all (by decide)
  rcases others mark letter with ⟨notPoint, notMark, notDigit⟩
  rw [cons_mem_decimalPattern_of_digit (by decide), cons_mem_rest, cons_mem_behindDigits]
  simp only [notPoint, notMark, notDigit, false_and, and_false, or_false, not_false_eq_true]

/-- Behind a base mark the digits of the base are all that the number takes. -/
theorem isLongestMatch_of_mark {octal : Bool} {mark : Char} {base : Nat}
    (found : base? octal mark = some base) (text : Text) :
    IsLongestMatch (pattern octal) ('0' :: mark :: text)
      ('0' :: mark :: text.takeWhile fun digit => digit == '_' || isDigitIn base digit) where
  isPrefix := by
    rw [List.prefix_cons_inj, List.prefix_cons_inj]
    exact List.takeWhile_prefix _
  isMatch := by
    rw [pattern, RegularExpression.matches'_add, Language.mem_add, mem_basedPattern]
    refine Or.inl ⟨mark, _, base, rfl, found, fun digit member => ?_⟩
    exact List.all_eq_true.mp List.all_takeWhile digit member
  longest other inText matched := by
    match other with
    | [] => exact Nat.zero_le _
    | [_] => exact Nat.succ_le_succ (Nat.zero_le _)
    | zero :: first :: more =>
        rcases List.cons_prefix_cons.mp inText with ⟨rfl, behind⟩
        rcases List.cons_prefix_cons.mp behind with ⟨rfl, inDigits⟩
        have based := (Language.mem_add _ _ _).mp matched
        rcases mem_basedPattern.mp (based.resolve_right (notMem_decimalPattern_of_mark found)) with
          ⟨mark, digits, base', same, found', areDigits⟩
        rcases same with ⟨⟩
        obtain rfl : base = base' := Option.some.inj (found.symm.trans found')
        rcases inDigits with ⟨behind, rfl⟩
        rw [List.takeWhile_append_of_pos areDigits]
        exact Nat.succ_le_succ (Nat.succ_le_succ (List.prefix_append more _).length_le)

/-- The reader of numbers takes the longest front that is a number. -/
theorem isLongestMatch_cut (octal : Bool) (isNumber : begins (head :: tail) = true) :
    IsLongestMatch (pattern octal) (head :: tail) (head :: (cut octal head tail).taken) := by
  rcases Bool.or_eq_true_iff.mp isNumber with digit | point
  · have isFirst : head ∈ decimalDigits := isDigit_iff.mp digit
    cases tail with
    | nil =>
        apply isLongestMatch_of_digit isFirst
        intro other inTail based
        rcases mem_basedPattern.mp based with ⟨mark, more, base, same, -⟩
        rw [(List.cons.inj same).2] at inTail
        exact absurd (List.prefix_nil.mp inTail) (by simp)
    | cons mark more =>
        cases found : if head == '0' then base? octal mark else none with
        | none =>
            have notPoint : forall character, character ∈ decimalDigits ->
                (character == '.') = false := forall_mem_of_all (by decide)
            rw [cut, found, notPoint head isFirst]
            apply isLongestMatch_of_digit isFirst
            intro other inTail based
            rcases mem_basedPattern.mp based with ⟨first, digits, base, same, isBase, -⟩
            rcases same with ⟨⟩
            rcases List.cons_prefix_cons.mp inTail with ⟨rfl, -⟩
            exact absurd (found.symm.trans isBase) (by simp)
        | some base =>
            rw [cut, found]
            split at found
            · next zero =>
                obtain rfl := beq_iff_eq.mp zero
                exact isLongestMatch_of_mark found more
            · exact absurd found (by simp)
  · simp only [Bool.and_eq_true, beq_iff_eq] at point
    rcases point with ⟨rfl, digit⟩
    cases tail with
    | nil => exact absurd digit (by simp)
    | cons first more => exact isLongestMatch_of_point (isDigit_iff.mp digit)

end Numeral
end Lexis
