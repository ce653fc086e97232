import Lexis.Document.Basic
import Lexis.Search

namespace Lexis
namespace Document

/-!
Parts of a document, as a view asks for them.
-/

/-- The tokens that overlap a span: behind those that end before it, all that begin before its end. -/
def tokensIn (document : Document) (span : Span) : List Token :=
  let ended := partitionPoint (fun token => token.stop ≤ span.start) document.tokens
  let started := partitionPoint (fun token => token.start < span.stop) document.tokens
  (document.tokens.take (max started ended)).drop ended

/-- The bytes of a line, its line feed included. -/
def lineSpan (document : Document) (line : Nat) : Span :=
  { start := document.text.lineStart line, stop := document.text.lineStart (line + 1) }

/-- The tokens that overlap a line; they may reach beyond it. -/
def lineTokens (document : Document) (line : Nat) : List Token :=
  if document.lineCount ≤ line then []
  else
    let span := document.lineSpan line
    if span.isEmpty then [] else document.tokensIn span

/-- The part of the text in a span, as far as the text reaches. -/
def slice (document : Document) (span : Span) : Text :=
  document.text.slice (min span.start document.size) (min span.stop document.size)

def bytes (document : Document) : List UInt8 :=
  Utf8.encode document.text

end Document
end Lexis
