import Holdout.Json.Document

/-!
# Answers of a hub

The splits of a dataset, and pages of rows. An answer is an object whose other fields do
not count, or an array with exactly its fields in order. What does not count is not read:
only its syntax matters.
-/

namespace Holdout
namespace Hub

/-- A split of a dataset, in one of its configurations. -/
structure SplitEntry where
  config : String
  split : String
  deriving DecidableEq, Repr

/-- Rows that a hub handed out at once. -/
structure Page where
  rows : List Json
  /-- How many rows there are in all, if the hub tells. -/
  total : Option Nat

/-- Fields of an object by their names, which are all read. -/
def readNames? (fields : List (List UInt8 × Json.Tree)) : Option (List (String × Json.Tree)) :=
  fields.mapM fun (written, tree) => (Json.readString? written).map fun name => (name, tree)

/-- The field of a name: some field if there is exactly one, and none if there is none. Two fields
of the same name cannot be read. -/
def soleField? (name : String) (fields : List (String × Json.Tree)) : Option (Option Json.Tree) :=
  match fields.filter fun field => field.1 = name with
  | [] => some none
  | [field] => some (some field.2)
  | _ => none

/-- The parts of an answer with these fields: under their names in an object, or in order in an array.
A part may be absent from an object only. -/
def parts? (names : List String) : Json.Tree → Option (List (Option Json.Tree))
  | .object fields => do
    let fields ← readNames? fields
    names.mapM fun name => soleField? name fields
  | .array items => if items.length = names.length then some (items.map some) else none
  | _ => none

/-- Read a string. -/
def readText? : Json.Tree → Option String
  | .string written => Json.readString? written
  | _ => none

/-- Read the items of an array. -/
def readItems? (read : Json.Tree → Option α) : Json.Tree → Option (List α)
  | .array items => items.mapM read
  | _ => none

/-- Read a number of rows, which may be null. -/
def readTotal? : Json.Tree → Option (Option Nat)
  | .null => some none
  | .number written => (Json.readCount? written).map some
  | _ => none

/-- Read a split. -/
def SplitEntry.ofTree? (tree : Json.Tree) : Option SplitEntry := do
  match ← parts? ["config", "split"] tree with
  | [some config, some split] => return ⟨← readText? config, ← readText? split⟩
  | _ => none

/-- Read the splits of a dataset. -/
def splitsOfTree? (tree : Json.Tree) : Option (List SplitEntry) := do
  match ← parts? ["splits"] tree with
  | [some splits] => readItems? SplitEntry.ofTree? splits
  | _ => none

/-- A row lies three levels deep in its answer. -/
def rowDepth : Nat := Json.depthLimit - 3

/-- Read a row. -/
def rowOfTree? (tree : Json.Tree) : Option Json := do
  match ← parts? ["row"] tree with
  | [some row] => row.read? rowDepth
  | _ => none

/-- Read a page. -/
def Page.ofTree? (tree : Json.Tree) : Option Page := do
  match ← parts? ["rows", "num_rows_total"] tree with
  | [some rows, total] =>
    let total ← match total with
      | none => some none
      | some total => readTotal? total
    return ⟨← readItems? rowOfTree? rows, total⟩
  | _ => none

/-- The tree of a text that is one value. -/
def treeOf? (text : List UInt8) : Option Json.Tree := do
  let tokens ← Json.scan? text
  Json.Tree.only? tokens

end Hub
end Holdout
