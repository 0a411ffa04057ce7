import Holdout.Json.Basic
import Holdout.NameMap
import Holdout.Text.Lowercase

/-!
# Source items

What a source delivers before it is known to be a record: a sample of an archive,
or a row of a document.
-/

namespace Holdout

/-- The files of an archive that share a key. -/
structure Sample where
  key : String
  /-- File contents by lowercase extension. -/
  members : NameMap ByteArray
  deriving Inhabited

namespace Sample

/-- A sample without members. -/
def new (key : String) : Sample := ⟨key, NameMap.empty⟩

/-- The sample with one more member, which replaces a member of the same lowercase extension. -/
def withMember (sample : Sample) (extension : String) (data : ByteArray) : Sample :=
  { sample with members := sample.members.insert (Text.lowercase extension) data }

/-- The sample that the given members make, one after the other. -/
def ofMembers (key : String) (members : List (String × ByteArray)) : Sample :=
  members.foldl (fun sample (extension, data) => sample.withMember extension data) (new key)

end Sample

/-- An item of a source. -/
inductive Item
  | sample (value : Sample)
  | row (value : Json)
  deriving Inhabited

/-- The word for the kind of item in messages. -/
def Item.kind : Item → String
  | .sample _ => "sample"
  | .row _ => "row"

end Holdout
