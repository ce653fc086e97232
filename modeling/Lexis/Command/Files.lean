import Lexis.Path

namespace Lexis
namespace Command

/-!
Reading files, and a stand-in for a file system.

The program reads a file from its system, and a report is about what was read or
why nothing was (`ReadFault`).  A `FileTree` is no part of the program: it stands in
for the system where commands are tried out on files that are only named.

A tree is given by the relative paths of its files; their directories are implied.
`FileTree.read` follows a path through it the way an operating system does.  A path
may leave the tree, but finds no files outside it.
-/

/-- Why a file cannot be read. -/
inductive ReadFault where
  | missing
  | notDirectory
  | isDirectory
  | nameTooLong
  /-- No path can hold the character with the code zero. -/
  | nullCharacter
  /-- Any other reason, in the words of the system. -/
  | other (reason : String)
  deriving DecidableEq, Repr

def ReadFault.message : ReadFault -> String
  | missing => "No such file or directory (os error 2)"
  | notDirectory => "Not a directory (os error 20)"
  | isDirectory => "Is a directory (os error 21)"
  | nameTooLong => "File name too long (os error 36)"
  | nullCharacter => "file name contained an unexpected NUL byte"
  | other reason => reason

/-- The components of each file's path, and the file's bytes. -/
abbrev FileTree := List (List Text × List UInt8)

namespace FileTree

def ofPaths (files : List (Text × List UInt8)) : FileTree :=
  files.map fun file => (Path.components file.1, file.2)

/-- The greatest number of bytes in a component of a path. -/
def greatestName : Nat := 255

/-- The greatest number of bytes in a path. -/
def greatestPath : Nat := 4095

/-- The piece of a path stays where it is or leads to a parent directory. -/
def namesNothing (piece : Text) : Bool :=
  piece == [] || piece == ['.'] || piece == ['.', '.']

/-- What comes of looking for a name where it is not. -/
def absence (name : Text) : ReadFault :=
  if greatestName < name.size then .nameTooLong else .missing

/-- Follows the pieces of a path outside the tree: there is no file to be found. -/
def followOutside (pieces : List Text) : ReadFault :=
  match pieces.find? fun piece => !namesNothing piece with
  | none => .isDirectory
  | some name => absence name

/-- Follows the pieces of a path from a directory of the tree on. -/
def follow (tree : FileTree) (directory : List Text) :
    List Text -> Except ReadFault (List UInt8)
  | [] => .error .isDirectory
  | piece :: pieces =>
      if piece = [] || piece = ['.'] then follow tree directory pieces
      else if piece = ['.', '.'] then
        if directory.isEmpty then .error (followOutside pieces)
        else follow tree directory.dropLast pieces
      else
        let place := directory ++ [piece]
        match tree.find? (·.1 == place) with
        | some file => if pieces.isEmpty then .ok file.2 else .error .notDirectory
        | none =>
            if tree.any fun file => place.isPrefixOf file.1 then follow tree place pieces
            else .error (absence piece)

/-- The bytes of the file that a path leads to. -/
def read (tree : FileTree) (path : Text) : Except ReadFault (List UInt8) :=
  if path.contains '\x00' then .error .nullCharacter
  else if path.isEmpty then .error .missing
  else if greatestPath < path.size then .error .nameTooLong
  else if path.head? = some '/' then .error (followOutside (Path.pieces path))
  else follow tree [] (Path.pieces path)

end FileTree
end Command
end Lexis
