import Lexis.Grammar.Scripted
import Lexis.Proofs.Body.Ends
import Lexis.Proofs.Grammar.Kinds
import Lexis.Proofs.Grammar.Steps

namespace Lexis

/-!
Comments and strings in a text.

A comment with a closer or a string is its opener and a body, and the body ends
at the first place where one of its kind can.  If there is none, the construct
is the last token of the text and open behind it, and nothing else leaves a
construct open (`Grammar.constructs_end`).
-/

/-- The kinds of lexeme that consist of an opener and a body. -/
def Opening.hasBody : Opening -> Bool
  | .blockComment | .markupComment | .string _ _ => true
  | _ => false

/-- What stands around a comment or a string, and how its body ends. -/
structure Enclosure where
  category : Category
  opener : Text
  limits : Limits
  deriving DecidableEq, Repr

namespace Grammar

/-- The text begins with an opener that the grammar knows, and this is what it opens. -/
inductive Opens (grammar : Grammar) (text : Text) : Enclosure -> Prop
  | block (opens : ['/', '*'] <+: text) : grammar.Opens text
      { category := .comment
        opener := ['/', '*']
        limits := { closer := ['*', '/'], escapes := false, multiline := true } }
  | markup (hasMarkup : grammar.features.markupComments = true)
      (opens : ['<', '!', '-', '-'] <+: text) : grammar.Opens text
      { category := .comment
        opener := ['<', '!', '-', '-']
        limits := { closer := ['-', '-', '>'], escapes := false, multiline := true } }
  | tripled {quote : Char} (isQuote : grammar.features.isQuote quote = true)
      (multiline : grammar.features.multilineStrings = true) (notBacktick : quote ≠ '`')
      (opens : [quote, quote, quote] <+: text) : grammar.Opens text
      { category := .string
        opener := [quote, quote, quote]
        limits := { closer := [quote, quote, quote], escapes := true, multiline := true } }
  | quoted {quote : Char} (isQuote : grammar.features.isQuote quote = true)
      (opens : [quote] <+: text)
      (notTripled : ¬ (grammar.features.multilineStrings = true ∧ quote ≠ '`' ∧
        [quote, quote, quote] <+: text)) : grammar.Opens text
      { category := .string
        opener := [quote]
        limits :=
          { closer := [quote]
            escapes := true
            multiline := quote == '`' && grammar.features.multilineStrings } }

/--
A comment or string that the text begins with: its opener, and a body that the
text runs out in if the construct is open.
-/
def BeginsWith (grammar : Grammar) (text : Text) (category : Category) (front : Text)
    (isOpen : Bool) : Prop :=
  exists enclosure body, grammar.Opens text enclosure ∧ enclosure.category = category ∧
    enclosure.opener ++ body = front ∧
    enclosure.limits.Ends (text.drop enclosure.opener.length) body isOpen

variable {grammar : Grammar} {inTag : Bool} {head : Char} {tail text : Text}

/-! ## Openers and steps -/

/-- The step that begins here takes an opener and a body of the enclosure. -/
structure Takes (grammar : Grammar) (inTag : Bool) (head : Char) (tail : Text)
    (enclosure : Enclosure) (body : Body) : Prop where
  category_eq : (grammar.next inTag head tail).category = enclosure.category
  taken_eq : head :: (grammar.next inTag head tail).cut.taken = enclosure.opener ++ body.cut.taken
  ends : enclosure.limits.Ends ((head :: tail).drop enclosure.opener.length) body.cut.taken
    body.isOpen
  isOpen_iff : (grammar.next inTag head tail).state ≠ .normal <-> body.isOpen = true

/-- A string is quoted three times if it may be and three quotes are there. -/
theorem opensTripled_iff {quote : Char} (isQuote : grammar.features.isQuote quote = true) :
    grammar.features.opensTripled quote text = true <->
      grammar.features.multilineStrings = true ∧ quote ≠ '`' ∧ [quote, quote, quote] <+: text := by
  simp only [Features.opensTripled, Text.opensWith, Bool.and_eq_true, bne_iff_ne, and_assoc,
    List.isPrefixOf_iff_prefix]
  rcases isQuote_cases isQuote with rfl | rfl | rfl
  · exact Iff.rfl
  · exact Iff.rfl
  · simp

theorem state_ne_normal_iff {construct : State} (inside : construct ≠ .normal) (body : Body) :
    body.state construct ≠ .normal <-> body.isOpen = true := by
  cases isOpen : body.isOpen <;> simp [Body.state, isOpen, inside]

/-- A step that is put together from the enclosure's opener and a body takes them. -/
theorem takes_of_withBody {enclosure : Enclosure} {construct : State} {opener rest : Text}
    {body : Body}
    (step : grammar.next inTag head (opener ++ rest) =
      withBody enclosure.category construct inTag opener body)
    (inside : construct ≠ .normal) (opener_eq : enclosure.opener = head :: opener)
    (ends : enclosure.limits.Ends rest body.cut.taken body.isOpen) :
    grammar.Takes inTag head (opener ++ rest) enclosure body where
  category_eq := by rw [step]; rfl
  taken_eq := by rw [step, opener_eq]; rfl
  ends := by
    rw [opener_eq, List.length_cons, List.drop_succ_cons, List.drop_left]
    exact ends
  isOpen_iff := by
    rw [step]
    exact state_ne_normal_iff inside body

theorem next_of_star (grammar : Grammar) (inTag : Bool) (rest : Text) :
    grammar.next inTag '/' ('*' :: rest) =
      withBody .comment .blockComment inTag ['*'] (Body.ofComment blockCloser rest) := by
  rw [next, opening_of_star]
  rfl

theorem next_of_markup (inTag : Bool) (hasMarkup : grammar.features.markupComments = true)
    (rest : Text) :
    grammar.next inTag '<' ('!' :: '-' :: '-' :: rest) =
      withBody .comment .markupComment inTag ['!', '-', '-'] (Body.ofComment markupCloser rest) := by
  rw [next, opening_of_markup inTag hasMarkup]
  rfl

theorem next_of_tripled {quote : Char} (inTag : Bool)
    (isQuote : grammar.features.isQuote quote = true) {rest : Text}
    (tripled : grammar.features.opensTripled quote (quote :: quote :: quote :: rest) = true) :
    grammar.next inTag quote (quote :: quote :: rest) =
      withBody .string (.inString quote true) inTag [quote, quote]
        (Body.ofString quote true rest) := by
  rw [next, opening_of_quote isQuote, tripled]
  rfl

theorem next_of_quoted {quote : Char} (inTag : Bool)
    (isQuote : grammar.features.isQuote quote = true) {rest : Text}
    (single : grammar.features.opensTripled quote (quote :: rest) = false) :
    let multiline := quote == '`' && grammar.features.multilineStrings
    grammar.next inTag quote rest =
      withBody .string (.inString quote multiline) inTag [] (Body.ofString quote multiline rest) := by
  rw [next, opening_of_quote isQuote, single]
  rfl

/-- Where an opener stands, the construct that it opens is taken. -/
theorem exists_takes_of_opens {enclosure : Enclosure} (inTag : Bool)
    (opens : grammar.Opens (head :: tail) enclosure) :
    exists body, grammar.Takes inTag head tail enclosure body := by
  cases opens with
  | block opens =>
      rcases opens with ⟨rest, same⟩
      rcases List.cons.inj same with ⟨rfl, rfl⟩
      exact ⟨_, takes_of_withBody (grammar.next_of_star inTag rest) (by decide) rfl
        (Body.ofComment_ends (by decide) rest)⟩
  | markup hasMarkup opens =>
      rcases opens with ⟨rest, same⟩
      rcases List.cons.inj same with ⟨rfl, rfl⟩
      exact ⟨_, takes_of_withBody (next_of_markup inTag hasMarkup rest) (by decide) rfl
        (Body.ofComment_ends (by decide) rest)⟩
  | @tripled quote isQuote multiline notBacktick opens =>
      have tripled := (opensTripled_iff isQuote).mpr ⟨multiline, notBacktick, opens⟩
      rcases opens with ⟨rest, same⟩
      rcases List.cons.inj same with ⟨rfl, rfl⟩
      have ends := Body.ofString_ends (isQuote_cases isQuote) true rest
      rw [Body.stringLimits_of_tripled notBacktick] at ends
      exact ⟨_, takes_of_withBody (next_of_tripled inTag isQuote tripled) (by simp) rfl ends⟩
  | @quoted quote isQuote opens notTripled =>
      have single : grammar.features.opensTripled quote (head :: tail) = false :=
        Bool.eq_false_iff.mpr (mt (opensTripled_iff isQuote).mp notTripled)
      rcases opens with ⟨rest, same⟩
      rcases List.cons.inj same with ⟨rfl, rfl⟩
      have ends := Body.ofString_ends (isQuote_cases isQuote)
        (quote == '`' && grammar.features.multilineStrings) rest
      rw [Body.stringLimits_of_single] at ends
      exact ⟨_, takes_of_withBody (next_of_quoted inTag isQuote single) (by simp) rfl ends⟩

theorem Takes.beginsWith {enclosure : Enclosure} {body : Body}
    (takes : grammar.Takes inTag head tail enclosure body)
    (opens : grammar.Opens (head :: tail) enclosure) :
    grammar.BeginsWith (head :: tail) (grammar.next inTag head tail).category
      (head :: (grammar.next inTag head tail).cut.taken) body.isOpen :=
  ⟨enclosure, body.cut.taken, opens, takes.category_eq.symm, takes.taken_eq.symm, takes.ends⟩

/-! ## Kinds with a body -/

/-- A kind with a body is announced by an opener. -/
theorem exists_opens_of_hasBody (hasBody : (grammar.opening inTag head tail).hasBody = true) :
    exists enclosure, grammar.Opens (head :: tail) enclosure := by
  have announces := grammar.announces_opening inTag head tail
  cases kind : grammar.opening inTag head tail with
  | blockComment =>
      rw [kind] at announces
      exact ⟨_, .block (List.isPrefixOf_iff_prefix.mp announces)⟩
  | markupComment =>
      rw [kind] at announces
      exact ⟨_, .markup announces.1 (List.isPrefixOf_iff_prefix.mp announces.2)⟩
  | string quote tripled =>
      rw [kind] at announces
      rcases announces with ⟨rfl, isQuote, -⟩
      by_cases quotes : grammar.features.multilineStrings = true ∧ head ≠ '`' ∧
          [head, head, head] <+: head :: tail
      · exact ⟨_, .tripled isQuote quotes.1 quotes.2.1 quotes.2.2⟩
      · exact ⟨_, .quoted isQuote ⟨tail, rfl⟩ quotes⟩
  | _ =>
      rw [kind] at hasBody
      exact absurd hasBody (by simp [Opening.hasBody])

/-- Only a lexeme with a body leaves something open. -/
theorem hasBody_of_state (isOpen : (grammar.next inTag head tail).state ≠ .normal) :
    (grammar.opening inTag head tail).hasBody = true := by
  rw [next] at isOpen
  cases kind : grammar.opening inTag head tail with
  | blockComment | markupComment | string _ _ => rfl
  | _ =>
      rw [kind] at isOpen
      exact absurd rfl isOpen

/-- Strings have a body, and so do the comments that begin with an opener. -/
theorem hasBody_of_category
    (isConstruct : (grammar.next inTag head tail).category = .string ∨
      (grammar.next inTag head tail).category = .comment ∧
        (['/', '*'] <+: head :: tail ∨ ['<', '!', '-', '-'] <+: head :: tail)) :
    (grammar.opening inTag head tail).hasBody = true := by
  have tells := grammar.tells_next inTag head tail
  have announces := grammar.announces_opening inTag head tail
  rcases isConstruct with isString | ⟨isComment, opener⟩
  · rw [isString] at tells
    rcases tells with ⟨quote, tripled, kind⟩
    rw [kind]
    rfl
  · rw [isComment] at tells
    rcases tells with kind | kind | kind
    · rw [kind] at announces
      have others : ¬ ['/', '/'] <+: head :: tail ∧ head ≠ '#' := by
        rcases opener with ⟨rest, same⟩ | ⟨rest, same⟩ <;> rw [← same] <;>
          rcases List.cons.inj same with ⟨rfl, -⟩ <;> simp
      rcases announces with slashes | ⟨-, hash⟩
      · exact absurd (List.isPrefixOf_iff_prefix.mp slashes) others.1
      · exact absurd hash others.2
    · rw [kind]
      rfl
    · rw [kind]
      rfl

/-! ## Tokens -/

/-- A construct that begins with an opener is open if the step leaves something open. -/
theorem state_of_beginsWith {category : Category} {front : Text}
    (begins : grammar.BeginsWith (head :: tail) category front true) :
    (grammar.next inTag head tail).state ≠ .normal := by
  rcases begins with ⟨enclosure, body, opens, -, -, ends⟩
  rcases exists_takes_of_opens inTag opens with ⟨taken, takes⟩
  exact takes.isOpen_iff.mpr (takes.ends.isOpen_eq ends)

/--
In a text that does not begin inside a construct, every comment with an opener
and every string is the opener and a body that ends where a body of its kind
first can.  The text leaves a construct open exactly if its last token is one in
whose body the text runs out.
-/
theorem constructs_end (grammar : Grammar) (text : Text) :
    (forall token, token ∈ (grammar.scan .normal text).tokens 0 ->
      token.category = .string ∨ token.category = .comment ∧
        (['/', '*'] <+: token.text text ∨ ['<', '!', '-', '-'] <+: token.text text) ->
      exists isOpen, grammar.BeginsWith (text.after token.start) token.category
        (token.text text) isOpen) ∧
      ((grammar.scan .normal text).endState ≠ .normal <->
        exists token, ((grammar.scan .normal text).tokens 0).getLast? = some token ∧
          grammar.BeginsWith (text.after token.start) token.category (token.text text) true) := by
  constructor
  · intro token member isConstruct
    have step : exists inTag head tail, grammar.scanner.CutsOff text inTag head tail token :=
      Scanner.exists_step_of_mem [] member
    rcases step with ⟨inTag, head, tail, cutsOff⟩
    have opener : ['/', '*'] <+: token.text text ∨ ['<', '!', '-', '-'] <+: token.text text ->
        ['/', '*'] <+: head :: tail ∨ ['<', '!', '-', '-'] <+: head :: tail :=
      Or.imp (·.trans cutsOff.isPrefix) (·.trans cutsOff.isPrefix)
    rw [cutsOff.category_eq] at isConstruct
    have hasBody := hasBody_of_category (isConstruct.imp_right (And.imp_right opener))
    rcases exists_opens_of_hasBody hasBody with ⟨enclosure, opens⟩
    rcases exists_takes_of_opens inTag opens with ⟨body, takes⟩
    rw [cutsOff.rest_eq, cutsOff.category_eq, cutsOff.text_eq]
    exact ⟨body.isOpen, takes.beginsWith opens⟩
  by_cases empty : text = []
  · have nothing : grammar.scan .normal [] = { lexemes := [], endState := .normal } :=
      Scanner.run_nil _ _ _
    rw [empty, nothing]
    refine iff_of_false (fun isOpen => isOpen rfl) ?_
    rintro ⟨token, isLast, -⟩
    exact absurd isLast (by simp [Scan.tokens, Lexeme.place])
  have last : exists token inTag head tail,
      ((grammar.scan .normal text).tokens 0).getLast? = some token ∧
        grammar.scanner.CutsOff text inTag head tail token ∧
        (grammar.scan .normal text).endState = (grammar.next inTag head tail).state :=
    Scanner.exists_last_step .normal false [] empty
  rcases last with ⟨token, inTag, head, tail, isLast, cutsOff, endState⟩
  rw [endState]
  constructor
  · intro isOpen
    rcases exists_opens_of_hasBody (hasBody_of_state isOpen) with ⟨enclosure, opens⟩
    rcases exists_takes_of_opens inTag opens with ⟨body, takes⟩
    refine ⟨token, isLast, ?_⟩
    rw [cutsOff.rest_eq, cutsOff.category_eq, cutsOff.text_eq, ← takes.isOpen_iff.mp isOpen]
    exact takes.beginsWith opens
  · rintro ⟨other, isLastToo, begins⟩
    obtain rfl : token = other := Option.some.inj (isLast.symm.trans isLastToo)
    rw [cutsOff.rest_eq] at begins
    exact state_of_beginsWith begins

/--
The second quote is escaped and does not end the string, and the slash behind the
star does not end the comment, since the star is part of its opener.
-/
theorem constructs_end_of_overlap :
    let text : Text := ['"', '\\', '"', '"', '/', '*', '/']
    (Grammar.javaScript.scan .normal text).tokens 0 = [⟨.string, 0, 4⟩, ⟨.comment, 4, 7⟩] ∧
      (exists isOpen, Grammar.javaScript.BeginsWith text .string ['"', '\\', '"', '"'] isOpen) ∧
      Grammar.javaScript.BeginsWith ['/', '*', '/'] .comment ['/', '*', '/'] true := by
  intro text
  have tokens : (Grammar.javaScript.scan .normal text).tokens 0 =
      [⟨.string, 0, 4⟩, ⟨.comment, 4, 7⟩] := by decide +kernel
  have isOpen : (Grammar.javaScript.scan .normal text).endState ≠ .normal := by decide +kernel
  rcases constructs_end Grammar.javaScript text with ⟨constructs, openLast⟩
  refine ⟨tokens, ?_, ?_⟩
  · exact constructs ⟨.string, 0, 4⟩ (by rw [tokens]; simp) (Or.inl rfl)
  · rcases openLast.mp isOpen with ⟨last, isLast, begins⟩
    rw [tokens] at isLast
    obtain rfl : ⟨.comment, 4, 7⟩ = last := Option.some.inj isLast
    exact begins

end Grammar
end Lexis
