import Lexis.Token

namespace Lexis
namespace Token

/-!
Do tokens partition a source?

`partition` walks over the tokens and reports the first that is out of place.
-/

/-- Why a list of tokens is no partition of a source. -/
inductive Fault where
  | misplaced (index : Nat) (token : Token) (expected : Nat)
  | empty (index : Nat) (token : Token)
  | outOfBounds (index : Nat) (token : Token) (size : Nat)
  | splitsCharacter (index : Nat) (token : Token)
  | incomplete (covered size : Nat)
  deriving DecidableEq, Repr

def Fault.message : Fault -> String
  | misplaced index token expected =>
      s!"token {index} {token.display} starts at {token.start} " ++
        s!"but the previous one ended at {expected}"
  | empty index token => s!"token {index} {token.display} is empty"
  | outOfBounds index token size =>
      s!"token {index} {token.display} out of bounds (source len: {size})"
  | splitsCharacter index token => s!"token {index} {token.display} splits a character"
  | incomplete covered size =>
      s!"tokens cover [0, {covered}) but the source is {size} bytes"

/-- Checks the tokens from the given index on, the first of them due at `expected`. -/
def partitionFrom (source : Text) (index expected : Nat) : List Token -> Except Fault Unit
  | [] =>
      if expected = source.size then .ok () else .error (.incomplete expected source.size)
  | token :: tokens =>
      if token.start ≠ expected then .error (.misplaced index token expected)
      else if token.isEmpty then .error (.empty index token)
      else if source.size < token.stop then .error (.outOfBounds index token source.size)
      else if source.IsBoundary token.stop then
        partitionFrom source (index + 1) token.stop tokens
      else .error (.splitsCharacter index token)

/-- Succeeds on tokens that cover the source from its start to its end. -/
def partition (source : Text) (tokens : List Token) : Except Fault Unit :=
  partitionFrom source 0 0 tokens

end Token
end Lexis
