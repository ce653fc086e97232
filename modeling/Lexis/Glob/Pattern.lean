import Lexis.Text.Basic

namespace Lexis
namespace Glob

/-!
Shell patterns for file names.

A pattern is read once into its parts.  `?` stands for a character, `*` for any
characters, `**` for any directories, and brackets for one character of a
class, or outside it behind an exclamation mark.  There are no escapes; a
bracket that is meant literally stands in a class of its own.
-/

/-- An item of a character class. -/
inductive Item where
  | single (character : Char)
  | range (first last : Char)
  deriving DecidableEq, Repr

/-- A part of a pattern. -/
inductive Part where
  | literal (character : Char)
  | anyCharacter
  | within (items : List Item)
  | outside (items : List Item)
  | anyRun
  | anyDirectories
  deriving DecidableEq, Repr

/-- Why a text is no pattern. -/
inductive Cause where
  | wildcards
  | directories
  | range
  deriving DecidableEq, Repr

def Cause.message : Cause -> String
  | wildcards => "wildcards are either regular \x60*\x60 or recursive \x60**\x60"
  | directories => "recursive wildcards must form a single path component"
  | range => "invalid range pattern"

/-- A fault in a pattern, with the number of characters before the place it is seen at. -/
structure Fault where
  position : Nat
  cause : Cause
  deriving DecidableEq, Repr

/-- The items of a class: a hyphen between two characters makes a range of them. -/
def items : Text -> List Item
  | first :: '-' :: last :: rest => .range first last :: items rest
  | first :: rest => .single first :: items rest
  | [] => []

/-- A class behind its opening bracket, and the text behind its closing one. -/
structure Class where
  part : Part
  /-- How many characters the class has behind its opening bracket. -/
  length : Nat
  rest : Text
  deriving DecidableEq, Repr

/-- The class's first character belongs to it even if it is a closing bracket. -/
def classOf (build : List Item -> Part) (before : Nat) : Text -> Option Class
  | [] => none
  | first :: tail =>
      let more := tail.takeWhile (· ≠ ']')
      match tail.dropWhile (· ≠ ']') with
      | [] => none
      | _ :: rest =>
          some { part := build (items (first :: more))
                 length := before + more.length + 2
                 rest := rest }

/-- The class that stands behind an opening bracket. -/
def class? : Text -> Option Class
  | '!' :: tail => classOf Part.outside 1 tail
  | text => classOf Part.within 0 text

theorem length_rest_of_classOf {build : List Item -> Part} {before : Nat} {text : Text}
    {found : Class} (isClass : classOf build before text = some found) :
    found.rest.length < text.length := by
  cases text with
  | nil => exact absurd isClass (by simp [classOf])
  | cons first tail =>
      simp only [classOf] at isClass
      have shorter := (List.dropWhile_suffix (l := tail) (· ≠ ']')).length_le
      split at isClass
      · exact absurd isClass (by simp)
      · next head rest same =>
          obtain rfl := Option.some.inj isClass
          rw [same] at shorter
          simp only [List.length_cons] at shorter ⊢
          omega

theorem length_rest_of_class? {text : Text} {found : Class}
    (isClass : class? text = some found) : found.rest.length < text.length := by
  unfold class? at isClass
  split at isClass
  · have := length_rest_of_classOf isClass
    simp only [List.length_cons]
    omega
  · exact length_rest_of_classOf isClass

/-- Puts a part in front of those that follow it. -/
def followedBy (part : Part) (parts : Except Fault (List Part)) : Except Fault (List Part) :=
  parts.map (part :: ·)

/--
Reads the parts of a pattern from a position on.  Two stars must be a whole
component: `atStart` tells that a slash or nothing stands before the text.
-/
def partsFrom (position : Nat) (atStart : Bool) : Text -> Except Fault (List Part)
  | [] => .ok []
  | '?' :: rest => followedBy .anyCharacter (partsFrom (position + 1) false rest)
  | '*' :: '*' :: '*' :: _ => .error { position := position + 2, cause := .wildcards }
  | '*' :: '*' :: rest =>
      if atStart then
        match rest with
        | [] => .ok [.anyDirectories]
        | '/' :: more => followedBy .anyDirectories (partsFrom (position + 3) true more)
        | _ => .error { position := position + 2, cause := .directories }
      else .error { position := position - 1, cause := .directories }
  | '*' :: rest => followedBy .anyRun (partsFrom (position + 1) false rest)
  | '[' :: rest =>
      match found : class? rest with
      | none => .error { position := position, cause := .range }
      | some group =>
          have := length_rest_of_class? found
          followedBy group.part (partsFrom (position + group.length + 1) false group.rest)
  | head :: rest => followedBy (.literal head) (partsFrom (position + 1) (head == '/') rest)
termination_by text => text.length

/-- Reads a pattern. -/
def parts (pattern : Text) : Except Fault (List Part) :=
  partsFrom 0 true pattern

end Glob
end Lexis
