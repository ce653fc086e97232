import Lexis.Category
import Lexis.Search
import Lexis.Span
import Lexis.Text.Basic

namespace Lexis

/-!
Tokens: categorised byte ranges of a text.
-/

structure Token where
  category : Category
  start : Nat
  stop : Nat
  deriving DecidableEq, Repr

namespace Token

def span (token : Token) : Span :=
  { start := token.start, stop := token.stop }

def length (token : Token) : Nat :=
  token.stop - token.start

/-- The token begins where it ends. -/
def isEmpty (token : Token) : Bool :=
  token.start == token.stop

/-- The part of the source that the token covers. -/
def text (token : Token) (source : Text) : Text :=
  source.slice token.start token.stop

/-- The token moved by a signed number of bytes. -/
def shift (token : Token) (distance : Int) : Token :=
  { token with
    start := moveOffset token.start distance
    stop := moveOffset token.stop distance }

/-- The token cut down to a span. -/
def clip (token : Token) (span : Span) : Token :=
  { token with start := max token.start span.start, stop := min token.stop span.stop }

/-- The token and the span have a byte in common, if neither is empty. -/
def overlaps (token : Token) (span : Span) : Bool :=
  token.start < span.stop && span.start < token.stop

/-- The tokens that overlap a span, cut down to it. -/
def restrict (tokens : List Token) (span : Span) : List Token :=
  (tokens.filter (·.overlaps span)).map (·.clip span)

/-- The tokens that begin before an offset; the last of them is cut there. -/
def before (offset : Nat) (tokens : List Token) : List Token :=
  let begun := tokens.take (partitionPoint (fun token => token.start < offset) tokens)
  match begun.getLast? with
  | none => []
  | some last => begun.dropLast ++ [{ last with stop := min last.stop offset }]

/-- The tokens that end behind an offset, cut there. -/
def after (offset : Nat) (tokens : List Token) : List Token :=
  let reaching := tokens.drop (partitionPoint (fun token => token.stop ≤ offset) tokens)
  reaching.map fun token => { token with start := max token.start offset }

/-- The two tokens are pieces of one construct: the second goes on where the first stops. -/
def continues (first second : Token) : Bool :=
  first.category == second.category && first.stop == second.start

/--
One list of tokens after another.  Where the place between them lies inside an
open construct, its two pieces are made one token again.
-/
def join (isOpen : Bool) (earlier later : List Token) : List Token :=
  match earlier.getLast?, later with
  | some last, next :: more =>
      if isOpen && last.continues next then
        earlier.dropLast ++ { last with stop := next.stop } :: more
      else earlier ++ later
  | _, _ => earlier ++ later

/-- The token as diagnostics show it. -/
def display (token : Token) : String :=
  s!"Token \x7b category: {token.category.title}, start: {token.start}, end: {token.stop} \x7d"

end Token
end Lexis
