import Lexis.Proofs.Markdown.LineLocal
import Lexis.Proofs.Scanner.Returns

namespace Lexis
namespace Markdown

/-!
Markdown and the two characters of a line break.

Marks are looked for within a line, so they do not see what the line ends with.
Fenced code goes over its line breaks, and both characters of one stand between
the line and the closing mark.  So every text is scanned alike with and without
carriage returns, whatever was open in front of it (`scan_withReturns`).
-/

variable {head : Char} {tail : Text}

/-! ## Block marks -/

theorem isRule_withReturns (text : Text) : isRule text.withReturns = isRule text := by
  have same : (Cut.toLineEnd text.withReturns).taken = (Cut.toLineEnd text).taken := by
    rw [Cut.ignoresReturns_toLineEnd text]
    exact Text.withReturns_of_noFeed (Cut.isLineRule_toLineEnd.noFeed text)
  simp only [isRule, same]

theorem ordinal?_withReturns (tail : Text) :
    ordinal? tail.withReturns = (ordinal? tail).map Cut.withReturns := by
  have digits : Cut.run isDigit tail.withReturns = (Cut.run isDigit tail).withReturns :=
    Cut.ignoresReturns_run (by decide) (by decide) tail
  have noFeed : '\n' ∉ (Cut.run isDigit tail).taken :=
    (Cut.isLineRule_run (by decide)).noFeed tail
  rw [ordinal?, ordinal?, digits]
  simp only [Cut.withReturns]
  rw [Text.withReturns_of_noFeed noFeed]
  cases (Cut.run isDigit tail).rest with
  | nil => rfl
  | cons next rest =>
      by_cases feed : next = '\n'
      · subst feed
        rfl
      · rw [Text.withReturns_cons rest feed]
        by_cases point : next = '.'
        · subst point
          have noFeedInMark : '\n' ∉ (Cut.run isDigit tail).taken ++ ['.'] := by simpa using noFeed
          simp [Cut.withReturns, Text.withReturns_of_noFeed noFeedInMark]
        · simp [point]

theorem blockMark?_withReturns (head : Char) (tail : Text) :
    blockMark? head tail.withReturns =
      (blockMark? head tail).map fun mark => (mark.1, mark.2.withReturns) := by
  by_cases feed : head = '\n'
  · subst feed
    rfl
  have rule := isRule_withReturns (head :: tail)
  rw [Text.withReturns_cons tail feed] at rule
  have blankBehind : tail.withReturns.head?.any Unicode.isWhiteSpace =
      tail.head?.any Unicode.isWhiteSpace :=
    Text.any_head?_withReturns (by decide +kernel) tail
  simp only [blockMark?, rule, blankBehind, Cut.ignoresReturns_toLineEnd tail,
    ordinal?_withReturns, ← Cut.withReturns_stop]
  repeat' split
  all_goals simp [Function.comp_def]

/-! ## Inline constructs -/

theorem ignoresReturns_linkTarget : Cut.IgnoresReturns linkTarget := by
  intro text
  fun_cases linkTarget text with
  | case1 rest =>
      rw [Text.withReturns_cons rest (by decide), linkTarget, Cut.ignoresReturns_through,
        Cut.withReturns_push (by decide)]
  | case2 _ other =>
      rw [Cut.withReturns_stop, linkTarget]
      intro rest same
      have opensToo : text.withReturns.head? = some '(' := congrArg List.head? same
      have opens := (Text.head?_withReturns_eq_some_iff (by decide) text).mp opensToo
      rcases List.head?_eq_some_iff.mp opens with ⟨more, rfl⟩
      exact other more rfl

theorem ignoresReturns_link : Cut.IgnoresReturns link := by
  intro text
  have noFeed := (Cut.isLineRule_through ']').noFeed text
  have label : Cut.through ']' text.withReturns = (Cut.through ']' text).withReturns :=
    Cut.ignoresReturns_through ']' text
  have taken : (Cut.through ']' text).withReturns.taken = (Cut.through ']' text).taken :=
    Text.withReturns_of_noFeed noFeed
  have target : linkTarget (Cut.through ']' text).withReturns.rest =
      (linkTarget (Cut.through ']' text).rest).withReturns := ignoresReturns_linkTarget _
  rw [link_eq, link_eq, label, taken, target, Cut.withReturns_pushAll noFeed]

/-- The mark that closes fenced code may stand behind the line feed only. -/
theorem fenceBody_return (tail : Text) :
    fenceBody ('\r' :: '\n' :: tail) = (fenceBody ('\n' :: tail)).push '\r' := by
  have notFeed : ¬ Text.opensWith fenceMark ('\n' :: tail) = true :=
    Text.not_opensWith_of_isLineBreak (by decide) (by decide) rfl tail
  rw [fenceBody_cons, if_neg (by simp [notFeed])]

theorem fenceBody_withReturns (text : Text) :
    fenceBody text.withReturns = (fenceBody text).withReturns := by
  have within : fenceMark.IsWithinLine := by decide
  fun_induction fenceBody text with
  | case1 => rfl
  | case2 head tail ends =>
      rcases Bool.and_eq_true_iff.mp ends with ⟨breaks, opens⟩
      have longer := (Text.opensWith_withReturns within tail).trans opens
      have rest : List.drop 3 (Text.withReturns tail) = Text.withReturns (tail.drop 3) :=
        Text.drop_withReturns within.noFeed opens
      by_cases feed : head = '\n'
      · subst feed
        rw [Text.withReturns_feed, fenceBody_return, fenceBody_cons,
          if_pos (by simp [longer, breaks]), rest, Body.withReturns_push_feed,
          Body.withReturns_finished within.noFeed]
      · rw [Text.withReturns_cons tail feed, fenceBody_cons, if_pos (by simp [longer, breaks]),
          rest, Body.withReturns_push feed, Body.withReturns_finished within.noFeed]
  | case3 head tail goesOn ih =>
      rw [← Text.opensWith_withReturns within tail] at goesOn
      by_cases feed : head = '\n'
      · subst feed
        rw [Text.withReturns_feed, fenceBody_return, fenceBody_cons, if_neg goesOn, ih,
          Body.withReturns_push_feed]
      · rw [Text.withReturns_cons tail feed, fenceBody_cons, if_neg goesOn, ih,
          Body.withReturns_push feed]

theorem inline_withReturns (inLine : isLineBreak head = false) (tail : Text) :
    inline head tail.withReturns = (inline head tail).withReturns := by
  have other : head ≠ '\n' := by
    rintro rfl
    exact absurd inLine (by decide)
  have withinLine : fenceMark.IsWithinLine := by decide
  have fence := Text.opensWith_withReturns withinLine (head :: tail)
  have doubled := Text.head?_withReturns_eq_some_iff inLine tail
  have bracketInLine : isLineBreak '[' = false := by decide
  have image := Text.head?_withReturns_eq_some_iff bracketInLine tail
  rw [Text.withReturns_cons tail other] at fence
  simp only [inline, fence, doubled, image]
  split
  · next opens =>
      rcases List.isPrefixOf_iff_prefix.mp opens with ⟨rest, same⟩
      rcases List.cons.inj same with ⟨rfl, rfl⟩
      have noFeed : '\n' ∉ ['`', '`'] := by decide
      have step := Step.ofBody_withReturns .string .fence false noFeed (fenceBody rest)
      rw [← fenceBody_withReturns] at step
      exact step
  split
  · rw [Cut.ignoresReturns_through]
    rfl
  split
  · split
    · next double =>
        rcases List.head?_eq_some_iff.mp double with ⟨rest, rfl⟩
        rw [(Cut.ignoresReturns_throughPair head).behind other]
        rfl
    · rw [Cut.ignoresReturns_through]
      rfl
  split
  · rw [ignoresReturns_link]
    rfl
  split
  · next isImage =>
      rcases List.head?_eq_some_iff.mp (of_decide_eq_true (Bool.and_eq_true_iff.mp isImage).2)
        with ⟨rest, rfl⟩
      rw [ignoresReturns_link.behind (by decide)]
      rfl
  · have ignores : Cut.IgnoresReturns (Cut.run fun character => !stopsPlain character) :=
      Cut.ignoresReturns_run (by decide) (by decide)
    rw [ignores]
    rfl

/-! ## Scans -/

theorem next_withReturns (atStart : Bool) (inLine : isLineBreak head = false) (tail : Text) :
    scanner.next atStart head tail.withReturns = (scanner.next atStart head tail).withReturns := by
  have notBreak : ¬ isLineBreak head = true := Bool.eq_false_iff.mp inLine
  simp only [scanner, next, if_neg notBreak]
  split
  · rw [Cut.ignoresReturns_run (by decide) (by decide)]
    rfl
  cases atStart with
  | false =>
      rw [if_neg Bool.false_ne_true, if_neg Bool.false_ne_true]
      exact inline_withReturns inLine tail
  | true =>
      rw [if_pos rfl, if_pos rfl, blockMark?_withReturns]
      cases blockMark? head tail with
      | none => exact inline_withReturns inLine tail
      | some mark => rfl

theorem run_withReturns (state : State) (atStart : Bool) {text : Text} (plain : '\r' ∉ text) :
    scanner.run state atStart text.withReturns = (scanner.run state atStart text).withReturns := by
  have breaks : forall atStart head tail, isLineBreak head = true ->
      scanner.next atStart head tail = Step.lineBreak true head tail := by
    intro atStart head tail breaks
    exact next_of_isLineBreak atStart breaks tail
  have steps : forall atStart head tail, isLineBreak head = false ->
      (forall after, after ∈ (scanner.next atStart head tail).lineStates -> True) ->
        scanner.next atStart head tail.withReturns =
          (scanner.next atStart head tail).withReturns := by
    intro atStart head tail inLine _
    exact next_withReturns atStart inLine tail
  exact Scanner.run_withReturns breaks steps state atStart plain fun _ _ => trivial

/-- A text that begins inside fenced code may begin with the closing mark. -/
theorem fenceRest_withReturns (text : Text) :
    fenceRest text.withReturns = (fenceRest text).withReturns := by
  have within : fenceMark.IsWithinLine := by decide
  have longer := Text.opensWith_withReturns within text
  rw [fenceRest, fenceRest, longer]
  split
  · next opens =>
      have rest : List.drop 3 (Text.withReturns text) = Text.withReturns (text.drop 3) :=
        Text.drop_withReturns within.noFeed opens
      rw [rest, Body.withReturns_finished within.noFeed]
  · exact fenceBody_withReturns text

theorem scan_withReturns (state : State) {text : Text} (plain : '\r' ∉ text) :
    scan state text.withReturns = (scan state text).withReturns := by
  by_cases fence : state = .fence
  · subst fence
    have whole : (fenceRest text).cut.taken ++ (fenceRest text).cut.rest = text :=
      isLineLocal_fence.whole text
    have plainRest : '\r' ∉ (fenceRest text).cut.rest := by
      rw [← whole] at plain
      exact fun member => plain (List.mem_append_right _ member)
    calc
      scan .fence text.withReturns =
          scanner.resume .string .fence false (fenceRest text.withReturns) := resumes_fence _
      _ = scanner.resume .string .fence false (fenceRest text).withReturns := by
        rw [fenceRest_withReturns]
      _ = (scanner.resume .string .fence false (fenceRest text)).withReturns :=
        Scanner.resume_withReturns (run_withReturns _ false plainRest)
      _ = (scan .fence text).withReturns := congrArg Scan.withReturns (resumes_fence text).symm
  · rw [scan, scan, if_neg fence, if_neg fence]
    exact run_withReturns .normal true plain

/--
A text without carriage returns is scanned as it is with a carriage return
before each line feed, token by token and state by state, whatever state the
scan begins in.
-/
theorem scan_ignores_returns (state : State) {text : Text} (plain : '\r' ∉ text) :
    let scan := scan state text
    let returned := Markdown.scan state text.withReturns
    (returned.tokens 0).map (fun token => (token.category, token.text text.withReturns)) =
        (scan.tokens 0).map (fun token => (token.category, (token.text text).withReturns)) ∧
      returned.lineStates = scan.lineStates ∧ returned.endState = scan.endState := by
  intro scan returned
  have same : returned = scan.withReturns := scan_withReturns state plain
  have covers : scan.Covers text := covers_scan state text
  have returnedCovers : returned.Covers text.withReturns := covers_scan state _
  rw [same] at returnedCovers ⊢
  exact ⟨covers.spelled_withReturns returnedCovers, scan.lineStates_withReturns, rfl⟩

/-- Fenced code is closed behind both characters, and a list mark stands before both. -/
theorem scan_ignores_returns_of_fence :
    let text : Text := ['x', '\n', '`', '`', '`', '\n', '-', '\n', '*', '*', 'b']
    let returned := scan .fence text.withReturns
    '\r' ∉ text ∧
      (returned.tokens 0).map (fun token => (token.category, token.text text.withReturns)) =
        [(.string, ['x', '\r', '\n', '`', '`', '`']), (.newline, ['\r', '\n']),
          (.keywordControl, ['-']), (.newline, ['\r', '\n']), (.keywordModifier, ['*', '*', 'b'])] ∧
      returned.lineStates = [.fence, .normal, .normal] ∧ returned.endState = .normal := by
  intro text returned
  have plain : '\r' ∉ text := by decide
  rcases scan_ignores_returns .fence plain with ⟨spelled, lineStates, endState⟩
  exact ⟨plain, spelled.trans (by decide +kernel), lineStates.trans (by decide +kernel),
    endState.trans (by decide +kernel)⟩

end Markdown
end Lexis
