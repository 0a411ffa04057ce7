import Holdout.FilePath
import Holdout.Item

/-!
# Members of an archive

The path of a file in an archive says which sample it belongs to and under which name:
the file name is cut at its first dot, and the part before it, together with the
directory, is the key of the sample.
-/

namespace Holdout
namespace Archive

/-- A file of an archive by its place in a sample. -/
structure Member where
  key : String
  /-- What stands behind the first dot of the file name. -/
  extension : String
  deriving DecidableEq, Repr

/-- The name of the file in its sample. -/
def Member.name (member : Member) : String := Text.lowercase member.extension

/-- Bytes as text, if they are UTF-8. -/
def text? (bytes : List UInt8) : Option String := String.fromUTF8? ⟨bytes.toArray⟩

/-- The key of a file with this stem in a directory. -/
def memberKey (directory : Option String) (stem : String) : String :=
  match directory with
  | none => stem
  | some directory => if directory = "" then stem else directory ++ "/" ++ stem

/-- Cut a path into the key of its sample and the extension; none if there is no file name in UTF-8. A
directory that is not UTF-8 leaves no trace in the key. -/
def Member.ofPath? (path : List UInt8) : Option Member := do
  let name ← FilePath.fileName? path
  let name ← text? name
  let stem := name.toList.takeWhile (· ≠ '.')
  let extension := (name.toList.dropWhile (· ≠ '.')).drop 1
  let directory := (FilePath.parent? path).bind text?
  return ⟨memberKey directory (String.ofList stem), String.ofList extension⟩

end Archive
end Holdout
