import Lexis.Language.Basic
import Lexis.Path
import Lexis.Text.Folding

namespace Lexis
namespace Language

/-!
Finding a language by a key or by a path.

All comparisons ignore the case of ASCII letters.
-/

/-- The language with this identifier or display name. -/
def ofId? (key : Text) : Option Language :=
  all.find? fun language =>
    Text.sameFolded language.id.toList key || Text.sameFolded language.displayName.toList key

/-- The language that one of whose extensions is the given one, written with or without a dot. -/
def ofExtension? (key : Text) : Option Language :=
  let extension := match key with
    | '.' :: tail => tail
    | _ => key
  all.find? fun language =>
    language.extensions.any fun known => Text.sameFolded known.toList extension

/-- The language that has the given name among its file names. -/
def ofFileName? (name : Text) : Option Language :=
  all.find? fun language =>
    language.fileNames.any fun known => Text.sameFolded known.toList name

/-- The language of a file name, by the whole name or else by its extension. -/
def ofName? (name : Text) : Option Language :=
  (ofFileName? name).or ((Path.extensionOf? name).bind ofExtension?)

/-- The language of the file a path leads to. -/
def ofPath? (path : Text) : Option Language :=
  (Path.fileName? path).bind ofName?

/-- The language that a key given by a user stands for; identifiers win over extensions. -/
def resolve? (key : Text) : Option Language :=
  (ofId? key).or (ofExtension? key)

end Language
end Lexis
