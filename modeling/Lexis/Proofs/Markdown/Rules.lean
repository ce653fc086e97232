import Lexis.Markdown.Scan
import Lexis.Proofs.Cut
import Lexis.Proofs.Markdown.Marks

namespace Lexis
namespace Markdown

/-!
The line rules of Markdown.

Block marks and links are decided within a line.
-/

variable {head : Char} {tail more : Text}

/-- The target of a link, with the parentheses around it, if there is one. -/
def linkTarget : Text -> Cut
  | '(' :: rest => (Cut.through ')' rest).push '('
  | text => Cut.stop text

theorem link_eq (text : Text) :
    link text = (linkTarget (Cut.through ']' text).rest).pushAll (Cut.through ']' text).taken := by
  fun_cases link text with
  | case1 label rest same =>
      rw [show (Cut.through ']' text).rest = '(' :: rest from same]
      simp [linkTarget, Cut.push, Cut.pushAll, label]
  | case2 label other =>
      have stops : linkTarget label.rest = Cut.stop label.rest := by
        rw [linkTarget]
        exact other
      rw [show (Cut.through ']' text).rest = label.rest from rfl, stops]
      simp [Cut.pushAll, Cut.stop, label]

theorem isLineRule_linkTarget : Cut.IsLineRule linkTarget := by
  have target := Cut.isLineRule_through ')'
  apply Cut.IsLineRule.of_feed
  · intro text
    fun_cases linkTarget text with
    | case1 rest => exact Cut.noFeed_push (by decide) (target.noFeed rest)
    | case2 => simp [Cut.stop]
  · intro text more feed
    fun_cases linkTarget text with
    | case1 rest =>
        have inRest := (List.mem_cons.mp feed).resolve_left (by decide)
        rw [List.cons_append, linkTarget, target.append (Or.inl inRest), Cut.extend_push]
    | case2 _ other =>
        rw [linkTarget, Cut.extend_stop]
        rintro rest same
        rcases List.exists_cons_of_ne_nil (List.ne_nil_of_mem feed) with ⟨next, text, rfl⟩
        rcases List.cons.inj same with ⟨rfl, -⟩
        exact other text rfl

/-- The target of a link stands directly behind its label. -/
theorem isLineRule_link : Cut.IsLineRule link := by
  have label := Cut.isLineRule_through ']'
  constructor
  · intro text
    rw [link_eq, Cut.pushAll, List.mem_append, not_or]
    exact ⟨label.noFeed text, isLineRule_linkTarget.noFeed _⟩
  · intro text more settled
    have rest := label.settles_rest (Cut.whole_through ']' text) settled
    rw [link_eq, link_eq, label.append settled, Cut.extend, isLineRule_linkTarget.append rest,
      Cut.extend_pushAll]

theorem isRule_append (settled : tail.Settles more) :
    isRule (head :: (tail ++ more)) = isRule (head :: tail) := by
  have both : Text.Settles (head :: tail) more := by
    rcases settled with feed | none
    · exact Or.inl (List.mem_cons_of_mem head feed)
    · exact Or.inr none
  have same := congrArg Cut.taken (Cut.isLineRule_toLineEnd.append both)
  simp only [Cut.extend, List.cons_append] at same
  simp only [isRule, same]

private theorem isLineRule_digits : Cut.IsLineRule (Cut.run isDigit) :=
  Cut.isLineRule_run (by decide)

theorem ordinal?_append (settled : tail.Settles more) :
    ordinal? (tail ++ more) = (ordinal? tail).map (·.extend more) := by
  have longer := isLineRule_digits.append settled
  have rest := isLineRule_digits.settles_rest (Cut.whole_run _ tail) settled
  cases found : ordinal? tail with
  | some cut =>
      rcases ordinal?_eq_some_iff.mp found with ⟨behind, same, rfl⟩
      rw [Option.map_some, ordinal?_eq_some_iff, longer]
      exact ⟨behind ++ more, by simp [Cut.extend, same], rfl⟩
  | none =>
      cases longerFound : ordinal? (tail ++ more) with
      | none => rfl
      | some cut =>
          rcases ordinal?_eq_some_iff.mp longerFound with ⟨behind, same, -⟩
          rw [longer, Cut.extend] at same
          rcases rest with feed | rfl
          · rcases List.exists_cons_of_ne_nil (List.ne_nil_of_mem feed) with ⟨next, behind, parts⟩
            rw [parts] at same
            rcases List.cons.inj same with ⟨rfl, -⟩
            rw [ordinal?_eq_some_iff.mpr ⟨behind, parts, rfl⟩] at found
            exact absurd found (by simp)
          · rw [List.append_nil, found] at longerFound
            exact longerFound.symm

/-- What a block mark takes within its line does not depend on what follows the line. -/
theorem blockMark?_append (settled : tail.Settles more) :
    blockMark? head (tail ++ more) =
      (blockMark? head tail).map fun mark => (mark.1, mark.2.extend more) := by
  have toLineEnd := Cut.isLineRule_toLineEnd.append settled
  simp only [blockMark?, isRule_append settled, settled.head?_append, toLineEnd,
    ordinal?_append settled]
  repeat' split
  all_goals simp [Function.comp_def]

theorem noFeed_blockMark? {category : Category} {cut : Cut}
    (found : blockMark? head tail = some (category, cut)) : '\n' ∉ cut.taken := by
  intro feed
  have inLine := (blockMark_of_blockMark? found).inLine (List.mem_cons_of_mem head feed)
  exact absurd inLine (by decide)

end Markdown
end Lexis
