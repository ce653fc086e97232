import Lexis.Proofs.Markdown.Rules
import Lexis.Proofs.Scanner.Pieces

namespace Lexis
namespace Markdown

/-!
Markdown scans line by line.

Marks are decided within a line, and whether a block mark may stand at a place
is settled anew on every line.  Fenced code is the one construct over many
lines.  It is over where three backticks begin a line, so a text that begins
inside it looks for them at once, and the text behind an opening mark only
behind its first line break.
-/

/-! ## Fenced code -/

/-- Fenced code from the start of a line inside it. -/
def fenceRest (text : Text) : Body :=
  if Text.opensWith fenceMark text then Body.finished fenceMark (text.drop 3) else fenceBody text

def fenceConstruct : Construct where
  category := .string
  state := .fence
  body := fenceRest

theorem fenceBody_cons (head : Char) (tail : Text) :
    fenceBody (head :: tail) =
      if isLineBreak head && Text.opensWith fenceMark tail then
        (Body.finished fenceMark (tail.drop 3)).push head
      else (fenceBody tail).push head := by
  rw [fenceBody]

theorem fenceBody_append {text : Text} (more : Text) (whole : text.IsWholeLines)
    (nonempty : text ≠ []) :
    fenceBody (text ++ more) = (fenceBody text).before more (fenceRest more) := by
  fun_induction fenceBody text with
  | case1 => exact absurd rfl nonempty
  | case2 head tail ends =>
      rcases Bool.and_eq_true_iff.mp ends with ⟨breaks, opens⟩
      have short : 3 ≤ tail.length := (List.isPrefixOf_iff_prefix.mp opens).length_le
      have present : tail ≠ [] := by
        rintro rfl
        simp at short
      have same : Text.opensWith fenceMark (tail ++ more) = Text.opensWith fenceMark tail :=
        whole.tail.opensWith_append present more (by decide)
      rw [List.cons_append, fenceBody_cons, breaks, same, opens, Bool.and_self, if_pos rfl,
        Body.before_push, Body.before_finished, List.drop_append_of_le_length short]
  | case3 head tail goesOn ih =>
      by_cases single : tail = []
      · subst single
        rcases whole.head_eq with rfl
        rw [List.cons_append, List.nil_append, fenceBody_cons, fenceRest, Body.before_push,
          fenceBody, Body.before_unfinished]
        by_cases opens : Text.opensWith fenceMark more = true <;> simp [opens, isLineBreak]
      · have same : Text.opensWith fenceMark (tail ++ more) = Text.opensWith fenceMark tail :=
          whole.tail.opensWith_append single more (by decide)
        rw [List.cons_append, fenceBody_cons, same, if_neg goesOn, Body.before_push,
          ih whole.tail single]

/-- The mark ends no line, so behind it at least the line's end is left. -/
theorem rest_ne_nil_of_fenceMark {text : Text} (whole : text.IsWholeLines)
    (opens : Text.opensWith fenceMark text = true) : text.drop 3 ≠ [] := by
  intro none
  have parts : fenceMark ++ text.drop 3 = text := Body.append_drop_of_opensWith opens
  have present : text ≠ [] := by
    rintro rfl
    exact absurd opens (by decide)
  rw [none, List.append_nil] at parts
  exact absurd (parts ▸ whole.feed_mem present) (by decide)

theorem rest_of_open_fenceBody {text : Text} (isOpen : (fenceBody text).isOpen = true) :
    (fenceBody text).cut.rest = [] := by
  fun_induction fenceBody text with
  | case1 => rfl
  | case2 => exact absurd isOpen (by simp [Body.finished, Body.push])
  | case3 head tail _ ih => exact ih isOpen

theorem lineFeeds_fenceBody (text : Text) :
    (fenceBody text).lineFeeds = (fenceBody text).cut.taken.lineFeeds := by
  fun_induction fenceBody text with
  | case1 => rfl
  | case2 head tail ends => exact Body.lineFeeds_push rfl
  | case3 head tail _ ih => exact Body.lineFeeds_push ih

theorem rest_ne_nil_of_closed_fenceBody {text : Text} (whole : text.IsWholeLines)
    (closed : (fenceBody text).isOpen = false) : (fenceBody text).cut.rest ≠ [] := by
  fun_induction fenceBody text with
  | case1 => exact absurd closed (by simp [Body.unfinished])
  | case2 head tail ends =>
      exact rest_ne_nil_of_fenceMark whole.tail (Bool.and_eq_true_iff.mp ends).2
  | case3 head tail _ ih => exact ih whole.tail closed

theorem readBy_fenceBody : fenceConstruct.ReadBy fenceBody where
  append := fenceBody_append
  whole := whole_fenceBody
  rest_of_open := rest_of_open_fenceBody
  lineFeeds := lineFeeds_fenceBody
  rest_of_closed whole closed _ := rest_ne_nil_of_closed_fenceBody whole closed

theorem isLineLocal_fence : fenceConstruct.IsLineLocal where
  append {text} more whole nonempty := by
    have same : Text.opensWith fenceMark (text ++ more) = Text.opensWith fenceMark text :=
      whole.opensWith_append nonempty more (by decide)
    simp only [fenceConstruct, fenceRest, same]
    split
    · next opens =>
        have short : 3 ≤ text.length := (List.isPrefixOf_iff_prefix.mp opens).length_le
        rw [Body.before_finished, List.drop_append_of_le_length short]
    · exact fenceBody_append more whole nonempty
  whole text := by
    simp only [fenceConstruct, fenceRest]
    split
    · next opens => exact Body.append_drop_of_opensWith opens
    · exact whole_fenceBody text
  rest_of_open {text} isOpen := by
    simp only [fenceConstruct, fenceRest] at isOpen ⊢
    split at isOpen
    · exact absurd isOpen (by simp [Body.finished])
    · next other => rw [if_neg other]; exact rest_of_open_fenceBody isOpen
  lineFeeds text := by
    simp only [fenceConstruct, fenceRest]
    split
    · rfl
    · exact lineFeeds_fenceBody text
  rest_of_closed {text} whole closed _ := by
    simp only [fenceConstruct, fenceRest] at closed ⊢
    split
    · next opens => exact rest_ne_nil_of_fenceMark whole opens
    · next other => rw [if_neg other] at closed; exact rest_ne_nil_of_closed_fenceBody whole closed
  isOpen := State.noConfusion
  quote_ne_feed := by decide
  category_ne := Category.noConfusion
  body_nil := rfl
  text_of_taken {text} empty := by
    simp only [fenceConstruct, fenceRest] at empty
    split at empty
    · exact absurd empty (by simp [Body.finished, fenceMark])
    · cases text with
      | nil => exact Or.inl rfl
      | cons head tail =>
          rw [fenceBody_cons] at empty
          split at empty <;> exact absurd empty (by simp [Cut.push])

theorem resumes_fence : scanner.Resumes false scan fenceConstruct :=
  fun _ => if_pos rfl

/-! ## The kinds of lexemes -/

variable {atStart : Bool} {head : Char} {tail : Text}

private theorem lineStep_fence (opens : Text.opensWith fenceMark (head :: tail) = true)
    (next : forall more, Text.Seam (head :: tail) more ->
      scanner.next atStart head (tail ++ more) = inline head (tail ++ more)) :
    scanner.LineStep true false scan atStart head tail := by
  rcases List.isPrefixOf_iff_prefix.mp opens with ⟨rest, same⟩
  rcases List.cons.inj same with ⟨rfl, rfl⟩
  exact .construct fenceConstruct fenceBody ['`', '`'] rest (fun _ => false) isLineLocal_fence
    readBy_fenceBody resumes_fence (by decide) rfl (fun _ _ => rfl) next

/-- A lexeme whose mark has two characters. -/
private theorem lineStep_behind (category : Category) {rule : Text -> Cut}
    (isLineRule : Cut.IsLineRule rule) (other : head ≠ '\n') {second : Char}
    (isSecond : tail.head? = some second) (secondOther : second ≠ '\n')
    (next : forall more, Text.Seam (head :: tail) more ->
      scanner.next atStart head (tail ++ more) =
        { category := category, cut := Cut.behind 1 rule (tail ++ more), mode := false }) :
    scanner.LineStep true false scan atStart head tail := by
  rcases List.head?_eq_some_iff.mp isSecond with ⟨rest, rfl⟩
  rcases isLineRule.behind secondOther rest with ⟨noFeed, append⟩
  refine .within category false (Cut.behind 1 rule (second :: rest)) ?_ fun more seam => ?_
  · simpa [Ne.symm other] using noFeed
  · rw [next more seam, List.cons_append, append more ((seam.settles other).tail secondOther)]

private theorem lineStep_inline (other : head ≠ '\n')
    (next : forall more, Text.Seam (head :: tail) more ->
      scanner.next atStart head (tail ++ more) = inline head (tail ++ more)) :
    scanner.LineStep true false scan atStart head tail := by
  by_cases opens : Text.opensWith fenceMark (head :: tail) = true
  · exact lineStep_fence opens next
  -- the choice between the other kinds looks at the first two characters only
  have sameHead : forall more, Text.Seam (head :: tail) more ->
      (tail ++ more).head? = tail.head? := fun more seam => (seam.settles other).head?_append
  have goesOn : forall more, Text.Seam (head :: tail) more ->
      ¬ Text.opensWith fenceMark (head :: (tail ++ more)) = true := by
    intro more seam
    rwa [seam.opensWith_append fenceMark (by decide)]
  by_cases code : head = '`'
  · refine .ofRule .string false (Cut.isLineRule_through '`') other fun more seam => ?_
    rw [next more seam, inline, if_neg (goesOn more seam), if_pos code]
  by_cases emphasis : head = '*' ∨ head = '_'
  · by_cases double : tail.head? = some head
    · refine lineStep_behind .keywordModifier (Cut.isLineRule_throughPair head) other double other
        fun more seam => ?_
      rw [next more seam, inline, if_neg (goesOn more seam), if_neg code,
        if_pos (by simpa using emphasis), sameHead more seam, if_pos double]
    · refine .ofRule .keyword false (Cut.isLineRule_through head) other fun more seam => ?_
      rw [next more seam, inline, if_neg (goesOn more seam), if_neg code,
        if_pos (by simpa using emphasis), sameHead more seam, if_neg double]
  by_cases bracket : head = '['
  · refine .ofRule .function false isLineRule_link other fun more seam => ?_
    rw [next more seam, inline, if_neg (goesOn more seam), if_neg code,
      if_neg (by simpa using emphasis), if_pos bracket]
  by_cases image : head = '!' ∧ tail.head? = some '['
  · refine lineStep_behind .function isLineRule_link other image.2 (by decide) fun more seam => ?_
    rw [next more seam, inline, if_neg (goesOn more seam), if_neg code,
      if_neg (by simpa using emphasis), if_neg bracket, sameHead more seam,
      if_pos (by simpa using image)]
  · have isLineRule : Cut.IsLineRule (Cut.run fun character => !stopsPlain character) :=
      Cut.isLineRule_run (by decide)
    refine .ofRule .plain false isLineRule other fun more seam => ?_
    rw [next more seam, inline, if_neg (goesOn more seam), if_neg code,
      if_neg (by simpa using emphasis), if_neg bracket, sameHead more seam,
      if_neg (by simpa using image)]

theorem lineStep (atStart : Bool) (head : Char) (tail : Text) :
    scanner.LineStep true false scan atStart head tail := by
  by_cases blank : isBlank head = true
  · have other : head ≠ '\n' := by
      rintro rfl
      exact absurd blank (by decide)
    have isLineRule : Cut.IsLineRule (Cut.run isBlank) := Cut.isLineRule_run (by decide)
    refine .ofRule .whitespace atStart isLineRule other fun more seam => ?_
    simp only [scanner, next, if_pos blank]
  by_cases breaks : isLineBreak head = true
  · refine .lineBreak breaks fun more seam => ?_
    simp only [scanner, next, if_neg blank, if_pos breaks]
  have other := Cut.ne_feed_of_not_isLineBreak breaks
  cases found : if atStart then blockMark? head tail else none with
  | none =>
      apply lineStep_inline other
      intro more seam
      have longer : (if atStart then blockMark? head (tail ++ more) else none) = none := by
        cases atStart with
        | false => rfl
        | true =>
            have notFound : blockMark? head tail = none := found
            simp [blockMark?_append (seam.settles other), notFound]
      simp only [scanner, next, if_neg blank, if_neg breaks, longer]
  | some mark =>
      rcases mark with ⟨category, cut⟩
      cases atStart with
      | false => exact absurd found (by simp)
      | true =>
          have isMark : blockMark? head tail = some (category, cut) := found
          refine .within category false cut ?_ fun more seam => ?_
          · simpa [Ne.symm other] using noFeed_blockMark? isMark
          · simp only [scanner, next, if_neg blank, if_neg breaks, if_true,
              blockMark?_append (seam.settles other), isMark, Option.map_some]

theorem next_of_isLineBreak (atStart : Bool) (breaks : isLineBreak head = true) (tail : Text) :
    scanner.next atStart head tail = Step.lineBreak true head tail := by
  have notBlank : isBlank head = false := by simp [isBlank, breaks]
  simp only [scanner, next, notBlank, breaks, Bool.false_eq_true, if_false, if_true]

theorem isLineLocal_scanner : scanner.IsLineLocal true false scan where
  step := lineStep
  category_lineBreak atStart _ tail breaks :=
    congrArg Step.category (next_of_isLineBreak atStart breaks tail)
  scan_normal _ := rfl
  scan_state state _ := by
    by_cases fence : state = .fence
    · exact Or.inr ⟨fenceConstruct, isLineLocal_fence, resumes_fence, fun _ => by rw [fence]; rfl⟩
    · exact Or.inl fun text => by rw [scan, if_neg fence]; rfl

end Markdown
end Lexis
