import Lexis.Proofs.Markdown.Blocks
import Lexis.Proofs.Markdown.Rules

namespace Lexis

/-!
Code, emphasis and links of Markdown.

Each of these constructs ends with the first closer behind its opener, or else
with its line; fenced code alone goes on over line breaks, and ends with the first
mark directly behind one (`Markdown.inlines_end_at_first_closer`).
-/

/-- The body is the shortest front of the text that is closed, or all of it if none is. -/
inductive EndsAtFirst (closed : Text -> Prop) (text : Text) : Text -> Prop
  | closed {front : Text} (isFront : front <+: text) (isClosed : closed front)
      (first : forall earlier, earlier <+: text -> closed earlier ->
        front.length ≤ earlier.length) : EndsAtFirst closed text front
  | unclosed (never : forall front, front <+: text -> ¬ closed front) :
      EndsAtFirst closed text text

namespace EndsAtFirst

variable {closed : Text -> Prop} {head : Char} {text front body : Text}

theorem isPrefix (ends : EndsAtFirst closed text body) : body <+: text := by
  cases ends with
  | closed isFront _ _ => exact isFront
  | unclosed _ => exact List.prefix_rfl

theorem nil (notAtOnce : ¬ closed []) : EndsAtFirst closed [] [] := by
  apply unclosed
  intro front isFront
  rwa [List.prefix_nil.mp isFront]

/-- One more character in front, if it closes nothing. -/
theorem cons (ends : EndsAtFirst closed text body) (notAtOnce : ¬ closed [])
    (sameBehind : forall front, front <+: text -> (closed (head :: front) <-> closed front)) :
    EndsAtFirst closed (head :: text) (head :: body) := by
  cases ends with
  | closed isFront isClosed first =>
      refine .closed (List.cons_prefix_cons.mpr ⟨rfl, isFront⟩)
        ((sameBehind _ isFront).mpr isClosed) fun earlier isEarlier isClosed => ?_
      cases earlier with
      | nil => exact absurd isClosed notAtOnce
      | cons character earlier =>
          rcases List.cons_prefix_cons.mp isEarlier with ⟨rfl, behind⟩
          exact Nat.succ_le_succ (first _ behind ((sameBehind _ behind).mp isClosed))
  | unclosed never =>
      refine .unclosed fun front isFront isClosed => ?_
      cases front with
      | nil => exact notAtOnce isClosed
      | cons character front =>
          rcases List.cons_prefix_cons.mp isFront with ⟨rfl, behind⟩
          exact never _ behind ((sameBehind _ behind).mp isClosed)

end EndsAtFirst

namespace Markdown

variable {head mark : Char} {tail text body closer : Text} {category : Category} {atStart : Bool}

/-! ## Closers on a line -/

/-- The body ends with the first closer on the line, or with the line. -/
def EndsOnLine (closer text body : Text) : Prop :=
  EndsAtFirst (fun front => closer <:+ front) (Cut.toLineEnd text).taken body

theorem endsOnLine_nil (present : closer ≠ []) : EndsOnLine closer [] [] :=
  EndsAtFirst.nil (by simpa using present)

theorem endsOnLine_of_isLineBreak (present : closer ≠ []) (breaks : isLineBreak head = true)
    (tail : Text) : EndsOnLine closer (head :: tail) [] := by
  have none : (Cut.toLineEnd (head :: tail)).taken = [] := by simp [Cut.toLineEnd, Cut.run, breaks]
  rw [EndsOnLine, none]
  exact EndsAtFirst.nil (by simpa using present)

/-- A body that is its closer. -/
theorem endsOnLine_closer (inLine : forall character, character ∈ closer ->
    isLineBreak character = false) (behind : Text) : EndsOnLine closer (closer ++ behind) closer := by
  refine .closed ?_ List.suffix_rfl fun earlier _ isClosed => isClosed.length_le
  rw [Cut.toLineEnd, Cut.run, List.takeWhile_append_of_pos (by simpa using inLine)]
  exact List.prefix_append _ _

theorem endsOnLine_cons (present : closer ≠ []) (inLine : isLineBreak head = false)
    (goesOn : ¬ closer <+: head :: tail) (ends : EndsOnLine closer tail body) :
    EndsOnLine closer (head :: tail) (head :: body) := by
  rw [EndsOnLine, toLineEnd_cons inLine]
  refine EndsAtFirst.cons ends (by simpa using present) fun front isFront => ?_
  rw [List.suffix_cons_iff, or_iff_right]
  rintro rfl
  have isPrefix : (Cut.toLineEnd tail).taken <+: tail := ⟨_, Cut.whole_toLineEnd tail⟩
  exact goesOn (List.cons_prefix_cons.mpr ⟨rfl, isFront.trans isPrefix⟩)

theorem endsOnLine_through (inLine : isLineBreak mark = false) (text : Text) :
    EndsOnLine [mark] text (Cut.through mark text).taken := by
  fun_induction Cut.through mark text with
  | case1 => exact endsOnLine_nil (by simp)
  | case2 head tail breaks => exact endsOnLine_of_isLineBreak (by simp) breaks tail
  | case3 tail _ => exact endsOnLine_closer (by simpa using inLine) tail
  | case4 head tail goesOn other ih =>
      refine endsOnLine_cons (by simp) (by simpa using goesOn) ?_ ih
      exact fun closes => other (List.cons_prefix_cons.mp closes).1.symm

theorem endsOnLine_throughPair (inLine : isLineBreak mark = false) (text : Text) :
    EndsOnLine [mark, mark] text (Cut.throughPair mark text).taken := by
  fun_induction Cut.throughPair mark text with
  | case1 => exact endsOnLine_nil (by simp)
  | case2 head tail breaks => exact endsOnLine_of_isLineBreak (by simp) breaks tail
  | case3 head tail _ both =>
      simp only [Bool.and_eq_true, decide_eq_true_eq] at both
      rcases both with ⟨rfl, second⟩
      rcases List.head?_eq_some_iff.mp second with ⟨rest, rfl⟩
      exact endsOnLine_closer (by simpa using inLine) rest
  | case4 head tail goesOn other ih =>
      refine endsOnLine_cons (by simp) (by simpa using goesOn) ?_ ih
      rintro ⟨rest, same⟩
      rcases List.cons.inj same with ⟨rfl, rfl⟩
      exact other (by simp)

theorem EndsOnLine.inLine (ends : EndsOnLine closer text body) {character : Char}
    (member : character ∈ body) : isLineBreak character = false :=
  (isRestOfLine_toLineEnd text).inLine (ends.isPrefix.subset member)

/-! ## Fences -/

/-- The text ends with the mark of a fence directly behind a line break. -/
def ClosesFence (front : Text) : Prop :=
  exists lineBreak, isLineBreak lineBreak = true ∧ lineBreak :: fenceMark <:+ front

theorem not_closesFence_nil : ¬ ClosesFence [] := by
  rintro ⟨lineBreak, -, isEnd⟩
  exact absurd (List.suffix_nil.mp isEnd) (by simp)

theorem fenceBody_ends (text : Text) : EndsAtFirst ClosesFence text (fenceBody text).cut.taken := by
  fun_induction fenceBody text with
  | case1 => exact .nil not_closesFence_nil
  | case2 head tail ends =>
      rcases Bool.and_eq_true_iff.mp ends with ⟨breaks, opens⟩
      refine .closed ?_ ⟨head, breaks, List.suffix_rfl⟩ ?_
      · exact List.cons_prefix_cons.mpr ⟨rfl, List.isPrefixOf_iff_prefix.mp opens⟩
      · rintro earlier - ⟨lineBreak, -, isEnd⟩
        exact isEnd.length_le
  | case3 head tail goesOn ih =>
      refine ih.cons not_closesFence_nil fun front isFront => ⟨?_, ?_⟩
      · rintro ⟨lineBreak, breaks, isEnd⟩
        rcases List.suffix_cons_iff.mp isEnd with same | behind
        · rcases List.cons.inj same with ⟨rfl, rfl⟩
          exact absurd (Bool.and_eq_true_iff.mpr ⟨breaks, List.isPrefixOf_iff_prefix.mpr isFront⟩)
            goesOn
        · exact ⟨lineBreak, breaks, behind⟩
      · rintro ⟨lineBreak, breaks, isEnd⟩
        exact ⟨lineBreak, breaks, isEnd.trans (List.suffix_cons _ _)⟩

/-! ## Links -/

/-- The body of a link: a label, and a target if one follows at once. -/
inductive LinkEnds (text : Text) : Text -> Prop
  | label {label behind : Text} (parts : label ++ behind = text) (ends : EndsOnLine [']'] text label)
      (noTarget : behind.head? ≠ some '(') : LinkEnds text label
  | target {label rest target : Text} (parts : label ++ '(' :: rest = text)
      (ends : EndsOnLine [']'] text label) (targetEnds : EndsOnLine [')'] rest target) :
      LinkEnds text (label ++ '(' :: target)

theorem link_ends (text : Text) : LinkEnds text (link text).taken := by
  have ends := endsOnLine_through (show isLineBreak ']' = false by decide) text
  have parts := Cut.whole_through ']' text
  rw [link_eq]
  generalize Cut.through ']' text = label at ends parts ⊢
  rcases label with ⟨label, behind⟩
  fun_cases linkTarget behind with
  | case1 rest => exact .target parts ends (endsOnLine_through (by decide) rest)
  | case2 _ other =>
      rw [Cut.pushAll, Cut.stop, List.append_nil]
      refine .label parts ends fun follows => ?_
      rcases List.head?_eq_some_iff.mp follows with ⟨rest, same⟩
      exact other rest same

theorem LinkEnds.inLine (ends : LinkEnds text body) {character : Char}
    (member : character ∈ body) : isLineBreak character = false := by
  cases ends with
  | label _ ends _ => exact ends.inLine member
  | target _ ends targetEnds =>
      rcases List.mem_append.mp member with inLabel | inTarget
      · exact ends.inLine inLabel
      rcases List.mem_cons.mp inTarget with rfl | inTarget
      · decide
      · exact targetEnds.inLine inTarget

/-! ## Lexemes inside a line -/

/-- What stands inside of a line, at the start of the text ahead. -/
inductive InlineSpan (ahead : Text) : Category -> Text -> Prop
  | fence {rest body : Text} (parts : fenceMark ++ rest = ahead)
      (ends : EndsAtFirst ClosesFence rest body) : InlineSpan ahead .string (fenceMark ++ body)
  | code {rest body : Text} (notFence : ¬ fenceMark <+: ahead) (parts : '`' :: rest = ahead)
      (ends : EndsOnLine ['`'] rest body) : InlineSpan ahead .string ('`' :: body)
  | strong {mark : Char} {rest body : Text} (isMark : mark = '*' ∨ mark = '_')
      (parts : mark :: mark :: rest = ahead) (ends : EndsOnLine [mark, mark] rest body) :
      InlineSpan ahead .keywordModifier (mark :: mark :: body)
  | emphasis {mark : Char} {rest body : Text} (isMark : mark = '*' ∨ mark = '_')
      (single : rest.head? ≠ some mark) (parts : mark :: rest = ahead)
      (ends : EndsOnLine [mark] rest body) : InlineSpan ahead .keyword (mark :: body)
  | link {opener rest body : Text} (isOpener : opener = ['['] ∨ opener = ['!', '['])
      (parts : opener ++ rest = ahead) (ends : LinkEnds rest body) :
      InlineSpan ahead .function (opener ++ body)
  | plain {head : Char} {rest behind : Text} (inLine : isLineBreak head = false)
      (parts : head :: (rest ++ behind) = ahead)
      (isRun : IsMaximalRun (fun character => !stopsPlain character) rest behind) :
      InlineSpan ahead .plain (head :: rest)

theorem inlineSpan_inline (inLine : isLineBreak head = false) (tail : Text) :
    InlineSpan (head :: tail) (inline head tail).category
      (head :: (inline head tail).cut.taken) := by
  simp only [inline]
  split
  · next opens =>
      rcases List.isPrefixOf_iff_prefix.mp opens with ⟨rest, same⟩
      rcases List.cons.inj same with ⟨rfl, rfl⟩
      exact .fence rfl (fenceBody_ends rest)
  next notFence =>
  split
  · next same =>
      subst same
      exact .code (mt List.isPrefixOf_iff_prefix.mpr notFence) rfl (endsOnLine_through inLine tail)
  split
  · next isMark =>
      have isMark : head = '*' ∨ head = '_' := by simpa using isMark
      split
      · next double =>
          rcases List.head?_eq_some_iff.mp double with ⟨rest, rfl⟩
          exact .strong isMark rfl (endsOnLine_throughPair inLine rest)
      · next single => exact .emphasis isMark single rfl (endsOnLine_through inLine tail)
  split
  · next same =>
      subst same
      exact .link (Or.inl rfl) rfl (link_ends tail)
  split
  · next image =>
      simp only [Bool.and_eq_true, decide_eq_true_eq] at image
      rcases image with ⟨rfl, bracket⟩
      rcases List.head?_eq_some_iff.mp bracket with ⟨rest, rfl⟩
      exact .link (Or.inr rfl) rfl (link_ends rest)
  · exact .plain inLine (congrArg (head :: ·) (Cut.whole_run _ tail)) (isMaximalRun_run _ tail)

/-- Only a fence goes on over a line break. -/
theorem InlineSpan.inLine {ahead front : Text} (span : InlineSpan ahead category front)
    (notFence : ¬ (category = .string ∧ fenceMark <+: front)) {character : Char}
    (member : character ∈ front) : isLineBreak character = false := by
  cases span with
  | fence _ _ => exact absurd ⟨rfl, List.prefix_append _ _⟩ notFence
  | code _ _ ends =>
      rcases List.mem_cons.mp member with rfl | inBody
      · decide
      · exact ends.inLine inBody
  | @strong mark _ _ isMark _ ends =>
      have inLine : isLineBreak mark = false := by rcases isMark with rfl | rfl <;> decide
      rcases List.mem_cons.mp member with rfl | behindFirst
      · exact inLine
      rcases List.mem_cons.mp behindFirst with rfl | inBody
      · exact inLine
      · exact ends.inLine inBody
  | emphasis isMark _ _ ends =>
      rcases List.mem_cons.mp member with rfl | inBody
      · rcases isMark with rfl | rfl <;> decide
      · exact ends.inLine inBody
  | link isOpener _ ends =>
      rcases List.mem_append.mp member with inOpener | inBody
      · have mark : character = '!' ∨ character = '[' := by
          rcases isOpener with rfl | rfl
          · exact Or.inr (List.mem_singleton.mp inOpener)
          · simpa using inOpener
        rcases mark with rfl | rfl <;> decide
      · exact ends.inLine inBody
  | plain inLine _ isRun =>
      rcases List.mem_cons.mp member with rfl | inRun
      · exact inLine
      · have inside := isRun.inside character inRun
        simp only [stopsPlain, Bool.not_or, Bool.and_eq_true, Bool.not_eq_true'] at inside
        exact inside.1

/-! ## Tokens -/

variable {step : Step Bool}

theorem IsStep.inlineSpan (isStep : IsStep atStart head tail step)
    (isInline : step.category ∈ inlineCategories) :
    InlineSpan (head :: tail) step.category (head :: step.cut.taken) := by
  cases isStep with
  | blank _ => exact absurd isInline (by simp [inlineCategories])
  | lineBreak _ => exact absurd isInline (by simp [Step.lineBreak, inlineCategories])
  | block _ isMark =>
      have apart : forall category : Category,
          category ∈ blockCategories -> category ∉ inlineCategories := by decide
      exact absurd isInline (apart _ isMark.category_mem)
  | inline _ inLine => exact inlineSpan_inline inLine tail

theorem IsStep.inLine (isStep : IsStep atStart head tail step)
    (notNewline : step.category ≠ .newline)
    (notFence : ¬ (step.category = .string ∧ fenceMark <+: head :: step.cut.taken))
    {character : Char} (member : character ∈ head :: step.cut.taken) :
    isLineBreak character = false := by
  cases isStep with
  | blank blank =>
      have isBlank := ((isMaximalRun_run Lexis.isBlank tail).cons blank).inside character member
      simpa using (Bool.and_eq_true_iff.mp isBlank).2
  | lineBreak _ => exact absurd rfl notNewline
  | block _ isMark => exact isMark.inLine member
  | inline _ inLine => exact (inlineSpan_inline inLine tail).inLine notFence member

/--
Code, emphasis, links and fences end with the first closer behind their opener,
where only a fence looks for it beyond the line.  So no token but a line break or
a fence has a line break in it.
-/
theorem inlines_end_at_first_closer (text : Text) {token : Token}
    (member : token ∈ (scan .normal text).tokens 0) :
    (token.category ∈ inlineCategories ->
      InlineSpan (text.after token.start) token.category (token.text text)) ∧
      (token.category ≠ .newline ->
        ¬ (token.category = .string ∧ fenceMark <+: token.text text) ->
          forall character, character ∈ token.text text -> isLineBreak character = false) := by
  have step : exists atStart head tail, scanner.CutsOff text atStart head tail token :=
    Scanner.exists_step_of_mem [] member
  rcases step with ⟨atStart, head, tail, cutsOff⟩
  rw [cutsOff.category_eq, cutsOff.text_eq, cutsOff.rest_eq]
  have isStep := isStep_next atStart head tail
  exact ⟨isStep.inlineSpan, fun notNewline notFence _ => isStep.inLine notNewline notFence⟩

/--
A single mark does not end what two of them open.  The target of the link has no
closer on its line, and the fence has one behind a carriage return.
-/
theorem inlines_end_at_first_closer_of_open_target :
    let strong : Text := ['_', '_', 'a', '_', 'b', '_', '_']
    let link : Text := ['[', ']', '(', 'c']
    let fence : Text := ['`', '`', '`', '\r', '`', '`', '`']
    let text : Text := strong ++ link ++ '\n' :: fence
    (scan .normal text).tokens 0 =
        [⟨.keywordModifier, 0, 7⟩, ⟨.function, 7, 11⟩, ⟨.newline, 11, 12⟩, ⟨.string, 12, 19⟩] ∧
      InlineSpan text .keywordModifier strong ∧
      InlineSpan (link ++ '\n' :: fence) .function link ∧
      (forall character, character ∈ link -> isLineBreak character = false) ∧
      InlineSpan fence .string fence := by
  intro strong link fence text
  have tokens : (scan .normal text).tokens 0 =
      [⟨.keywordModifier, 0, 7⟩, ⟨.function, 7, 11⟩, ⟨.newline, 11, 12⟩, ⟨.string, 12, 19⟩] := by
    decide +kernel
  have isToken : forall token : Token,
      token ∈ [⟨.keywordModifier, 0, 7⟩, ⟨.function, 7, 11⟩, ⟨.newline, 11, 12⟩, ⟨.string, 12, 19⟩] ->
        token ∈ (scan .normal text).tokens 0 := by
    intro token member
    rwa [tokens]
  have strongEnds := inlines_end_at_first_closer text (isToken ⟨.keywordModifier, 0, 7⟩ (by simp))
  have linkEnds := inlines_end_at_first_closer text (isToken ⟨.function, 7, 11⟩ (by simp))
  have fenceEnds := inlines_end_at_first_closer text (isToken ⟨.string, 12, 19⟩ (by simp))
  exact ⟨tokens, strongEnds.1 (by decide), linkEnds.1 (by decide),
    linkEnds.2 (by decide) (by decide), fenceEnds.1 (by decide)⟩

end Markdown
end Lexis
