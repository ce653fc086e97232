import Lexis.Command.Report
import Lexis.Proofs.Document.Apply
import Lexis.Proofs.Scan.Spelled

namespace Lexis

/-!
What a command prints of an edited text.

The document of a command is edited step by step, and its tokens are found by
rescans.  What is printed in the end does not show that: it is one line for each
token that a scan of the edited text finds and the options show
(`Command.report_prints_tokens`).  The texts of tokens are printed in quotes, so
even a token that spans lines takes up only one.
-/

namespace Text

/-- The text after an edit of it; an edit that does not fit is skipped. -/
def edited (text : Text) (edit : Edit) : Text :=
  if edit.Fits text then text.before edit.span.start ++ edit.text ++ text.after edit.span.stop
  else text

/-- The text after one edit after the other. -/
def editedBy (text : Text) (edits : List Edit) : Text :=
  edits.foldl edited text

/-- The text and all that the edits make of it can be held in memory. -/
def StaysStorable (text : Text) : List Edit -> Prop
  | [] => text.IsStorable
  | edit :: edits => text.IsStorable ∧ StaysStorable (text.edited edit) edits

instance decidableStaysStorable (text : Text) (edits : List Edit) :
    Decidable (text.StaysStorable edits) :=
  match edits with
  | [] => inferInstanceAs (Decidable text.IsStorable)
  | edit :: edits =>
      have := decidableStaysStorable (text.edited edit) edits
      inferInstanceAs (Decidable (_ ∧ _))

theorem StaysStorable.now {text : Text} {edits : List Edit} (stays : text.StaysStorable edits) :
    text.IsStorable := by
  cases edits with
  | nil => exact stays
  | cons edit edits => exact stays.1

theorem StaysStorable.last {text : Text} {edits : List Edit} (stays : text.StaysStorable edits) :
    (text.editedBy edits).IsStorable := by
  induction edits generalizing text with
  | nil => exact stays
  | cons edit edits ih => exact ih stays.2

end Text

namespace Document

variable {document : Document}

theorem perform_text (document : Document) (edit : Edit) :
    (document.perform (.edit edit)).text = document.text.edited edit := by
  have same := congrArg Prod.fst (document.perform_eq_spliced edit)
  rw [spliced, apply_ite Prod.fst] at same
  exact same

theorem perform_language (document : Document) (edit : Edit) :
    (document.perform (.edit edit)).language = document.language := by
  rcases Edit.fits_or_refused edit document.text with fits | ⟨error, refused⟩
  · rw [document.perform_of_fits fits]
    exact (applyEdit_versions document edit).1
  · rw [perform_of_error (apply_eq_error_iff.mpr refused)]

theorem performEdits_text (document : Document) (edits : List Edit) :
    (document.performEdits edits).text = document.text.editedBy edits := by
  induction edits generalizing document with
  | nil => rfl
  | cons edit edits ih =>
      have rest := ih (document.perform (.edit edit))
      rw [perform_text] at rest
      exact rest

theorem performEdits_language (document : Document) (edits : List Edit) :
    (document.performEdits edits).language = document.language := by
  induction edits generalizing document with
  | nil => rfl
  | cons edit edits ih => exact (ih _).trans (document.perform_language edit)

theorem Reachable.performEdits (reached : Reachable document) {edits : List Edit}
    (stays : document.text.StaysStorable edits) : Reachable (document.performEdits edits) := by
  induction edits generalizing document with
  | nil => exact reached
  | cons edit edits ih =>
      have rest := stays.2
      rw [← perform_text] at rest
      exact ih (.perform (.edit edit) reached rest.now) rest

/-- A new document that edits were applied to holds the tokens of the edited text. -/
theorem tokens_performEdits {text : Text} (language : Option Language) {edits : List Edit}
    (stays : text.StaysStorable edits) :
    ((create text language).performEdits edits).tokens =
      tokenize (text.editedBy edits) language := by
  have reached : Reachable ((create text language).performEdits edits) :=
    (Reachable.create text language stays.now).performEdits stays
  rw [reached.isFresh.tokens_eq, performEdits_text, performEdits_language]
  rfl

end Document

/-! ## Printed lines -/

namespace Text

theorem noFeed_toDigits {base : Nat} (positive : 1 < base) (number : Nat) :
    '\n' ∉ Nat.toDigits base number := by
  induction number using Nat.strongRecOn with
  | ind number ih =>
      by_cases small : number < base
      · rw [Nat.toDigits_of_lt_base small, List.mem_singleton]
        exact (Nat.digitChar_ne '\n' (by decide)).symm
      · have large : base ≤ number := Nat.le_of_not_lt small
        have less : number / base < number := Nat.div_lt_self (by omega) positive
        rw [Nat.toDigits_of_base_le positive large, List.mem_append, List.mem_singleton]
        rintro (inFront | last)
        · exact ih _ less inFront
        · exact Nat.digitChar_ne '\n' (by decide) last.symm

theorem noFeed_quoteCharacter (character : Char) : '\n' ∉ quoteCharacter character := by
  unfold quoteCharacter
  split
  case h_7 _ _ _ other _ _ =>
      split
      · have digits := noFeed_toDigits (show 1 < 16 by decide) character.toNat
        simpa [codeDigits] using digits
      · rw [List.mem_singleton]
        rintro rfl
        exact other rfl
  all_goals decide

/-- The quoted form of a text has no line feed in it, whatever the text has. -/
theorem noFeed_quoted (text : Text) : '\n' ∉ text.quoted := by
  simp [quoted, noFeed_quoteCharacter]

end Text

namespace Command

/-- The line that is printed for a token of a text. -/
def printedLine (source : Text) (token : Token) : String :=
  padRight 20 token.category.name ++ " " ++
    (padLeft 6 (toString token.start) ++ ".." ++ padRight 6 (toString token.stop)) ++ " " ++
    (token.text source).quotedString

theorem tokenLine_eq {document : Document} {token : Token} (ordered : token.start ≤ token.stop)
    (inside : token.stop ≤ document.size) :
    tokenLine document token = printedLine document.text token := by
  have part : document.slice token.span = token.text document.text := by
    simp only [Document.slice, Token.span, Token.text, Nat.min_eq_left inside,
      Nat.min_eq_left (Nat.le_trans ordered inside)]
  rw [tokenLine, part, printedLine]

theorem noFeed_name (category : Category) : '\n' ∉ category.name.toList := by
  cases category <;> decide +kernel

theorem noFeed_toString (number : Nat) : '\n' ∉ (toString number).toList := by
  rw [Nat.toString_eq_ofList_toDigits, String.toList_ofList]
  exact Text.noFeed_toDigits (by decide) number

theorem noFeed_padRight (width : Nat) {text : String} (noFeed : '\n' ∉ text.toList) :
    '\n' ∉ (padRight width text).toList := by
  simpa [padRight, List.mem_replicate] using noFeed

theorem noFeed_padLeft (width : Nat) {text : String} (noFeed : '\n' ∉ text.toList) :
    '\n' ∉ (padLeft width text).toList := by
  simpa [padLeft, List.mem_replicate] using noFeed

/-- Even if the token spans lines, what is printed for it is one line. -/
theorem noFeed_printedLine (source : Text) (token : Token) :
    '\n' ∉ (printedLine source token).toList := by
  have category := noFeed_padRight 20 (noFeed_name token.category)
  have start := noFeed_padLeft 6 (noFeed_toString token.start)
  have stop := noFeed_padRight 6 (noFeed_toString token.stop)
  have quoted := (token.text source).noFeed_quoted
  simp only [printedLine, Text.quotedString, String.toList_append, String.toList_ofList,
    List.mem_append, category, start, stop, quoted, or_false, false_or]
  decide

/-- A document whose tokens lie within its text is printed from its text and tokens alone. -/
theorem shownLines_eq (options : Options) {document : Document}
    (tiles : Token.Tiles 0 document.size document.tokens) :
    shownLines options document =
      (document.tokens.filter fun token => options.shows token.category).map
        (printedLine document.text) := by
  apply List.map_congr_left
  intro token member
  rcases tiles.bounds ((List.mem_filter.mp member).1) with ⟨-, nonempty, inside⟩
  exact tokenLine_eq (Nat.le_of_lt nonempty) inside

/-! ## Reports -/

theorem applyEdits_fst (document : Document) (edits : List Edit) :
    (applyEdits document edits).1 = document.performEdits edits := by
  induction edits generalizing document with
  | nil => rfl
  | cons edit edits ih =>
      have one : (applyEdit document edit).1 = document.perform (.edit edit) := by
        simp only [applyEdit, Document.perform]
        cases document.apply edit <;> rfl
      rw [applyEdits, ih, one]
      rfl

/-- A file that is a text, in a language that could be chosen, is printed as its edited document. -/
theorem report_of_text {options : Options} {settings : FileContent}
    {language : Option Language} {messages : List Message}
    (chosen : chooseLanguage options settings = .ok (language, messages)) (text : Text) :
    (report options (.ok (Utf8.encode text)) settings).failure = none ∧
      (report options (.ok (Utf8.encode text)) settings).lines =
        shownLines options ((Document.create text language).performEdits options.edits) := by
  have opened : Document.ofBytes (Utf8.encode text) language =
      .ok (Document.create text language) := by
    rw [Document.ofBytes, Utf8.decode_encode, Except.map]
  simp only [report, chosen, opened, applyEdits_fst, and_self]

/-- One line is printed for each token of the edited text that the options show. -/
theorem lines_report {options : Options} {settings : FileContent}
    {language : Option Language} {messages : List Message} {text : Text}
    (chosen : chooseLanguage options settings = .ok (language, messages))
    (stays : text.StaysStorable options.edits) :
    (report options (.ok (Utf8.encode text)) settings).lines =
      ((tokenize (text.editedBy options.edits) language).filter fun token =>
        options.shows token.category).map (printedLine (text.editedBy options.edits)) := by
  have reached := (Document.Reachable.create text language stays.now).performEdits stays
  rw [(report_of_text chosen text).2, shownLines_eq options reached.isFresh.toIsScanned.tiles,
    Document.tokens_performEdits language stays, Document.performEdits_text]
  rfl

/--
A command on a file that is a text prints one line for each token of the edited
text that the options show, in order, whatever edits led there and which of them
did not fit.  Another command prints the same of a file that already holds the
edited text, if the same language is chosen there.
-/
theorem report_prints_tokens {options : Options} {settings : FileContent}
    {language : Option Language} {messages : List Message} {text : Text}
    (chosen : chooseLanguage options settings = .ok (language, messages))
    (stays : text.StaysStorable options.edits) :
    let edited := text.editedBy options.edits
    let printed := report options (.ok (Utf8.encode text)) settings
    printed.failure = none ∧
      printed.lines =
        ((tokenize edited language).filter fun token => options.shows token.category).map
          (printedLine edited) ∧
      (forall line, line ∈ printed.lines -> '\n' ∉ line.toList) ∧
      forall (other : Options) otherSettings otherMessages, other.edits = [] ->
        (forall category, other.shows category = options.shows category) ->
        chooseLanguage other otherSettings = .ok (language, otherMessages) ->
          (report other (.ok (Utf8.encode edited)) otherSettings).lines = printed.lines := by
  intro edited printed
  have lines := lines_report chosen stays
  refine ⟨(report_of_text chosen text).1, lines, ?_, ?_⟩
  · intro line member
    rw [lines] at member
    rcases List.mem_map.mp member with ⟨token, -, rfl⟩
    exact noFeed_printedLine edited token
  · intro other otherSettings otherMessages noEdits sameShown sameChosen
    have otherStays : edited.StaysStorable other.edits := by
      rw [noEdits]
      exact stays.last
    have otherLines := lines_report sameChosen otherStays
    rw [noEdits] at otherLines
    rw [otherLines, lines]
    simp only [sameShown]
    rfl

/--
An edit inside of a character is skipped, another one opens a comment that takes
in the rest of the text, and the comment is printed as one line.
-/
theorem report_prints_tokens_of_skipped_edit :
    let text : Text := ['é', '\n', '"']
    let options : Options :=
      { file := ['a', '.', 'c']
        language := some ['C']
        edits := [.insert 1 ['x'], .insert 0 ['/', '*']]
        hideTrivia := true }
    chooseLanguage options .missing = .ok (some .c, []) ∧ text.StaysStorable options.edits ∧
      text.editedBy options.edits = ['/', '*', 'é', '\n', '"'] ∧
      (report options (.ok (Utf8.encode text)) .missing).lines =
        ["comment                   0..6      \"/*é\\n\\\"\""] := by
  intro text options
  have resolved : Language.resolve? ['C'] = some .c := by decide +kernel
  have chosen : chooseLanguage options .missing = .ok (some .c, []) := by
    simp only [chooseLanguage, options, resolved]
  have stays : text.StaysStorable options.edits := by decide +kernel
  have edited : text.editedBy options.edits = ['/', '*', 'é', '\n', '"'] := by decide +kernel
  have lines := (report_prints_tokens chosen stays).2.1
  rw [edited] at lines
  exact ⟨chosen, stays, edited, lines.trans (by decide +kernel)⟩

end Command
end Lexis
