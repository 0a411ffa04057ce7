import Holdout.Proofs.Archive.Keys

/-!
# Normalized paths

A normalized path is a text without empty parts and single dots. It is cut into the directory and the
file name it is written with, so that two of them name the same member of the same sample just if
they differ in nothing but the case of what stands behind the first dot of the file name.
-/

namespace Holdout
namespace Archive

/-- A text that can be a component of a path. -/
structure IsPathName (name : String) : Prop where
  notEmpty : name ≠ ""
  notDot : name ≠ "."
  slashFree : '/' ∉ name.toList

instance (name : String) : Decidable (IsPathName name) :=
  decidable_of_iff (name ≠ "" ∧ name ≠ "." ∧ '/' ∉ name.toList)
    ⟨fun ⟨notEmpty, notDot, slashFree⟩ => ⟨notEmpty, notDot, slashFree⟩,
    fun isName => ⟨isName.notEmpty, isName.notDot, isName.slashFree⟩⟩

/-- The bytes of a component of a path are a component again. -/
theorem IsPathName.isComponent
    {name : String}
    (isName : IsPathName name) :
    FilePath.IsComponent (Text.bytes name) := by
  refine ⟨Text.not_mem_bytes (by decide) isName.slashFree, ?_⟩
  have notEmpty : Text.bytes name ≠ [] := Text.bytes_ne isName.notEmpty
  have notDot : Text.bytes name ≠ [FilePath.dot] := Text.bytes_ne isName.notDot
  simp only [FilePath.isIdle, notEmpty, notDot, decide_false, Bool.or_self]

theorem bytes_slash : Text.bytes "/" = [FilePath.slash] := by
  rw [Text.bytes_eq_flatMap]
  rfl

/-- Joining texts by slashes joins their bytes. -/
theorem bytes_intercalate (names : List String) :
    Text.bytes (String.intercalate "/" names) = FilePath.join (names.map Text.bytes) := by
  induction names with
  | nil =>
    rw [String.intercalate_nil, Text.bytes_empty]
    rfl
  | cons name rest inductionHypothesis =>
    cases rest with
    | nil =>
      rw [String.intercalate_singleton]
      rfl
    | cons next others =>
      rw [String.intercalate_cons_cons, Text.bytes_append, Text.bytes_append, bytes_slash,
        inductionHypothesis, List.append_assoc]
      rfl

/-- A path that is written without parts that do not count. -/
structure NormalPath where
  /-- Whether the path begins at the root. -/
  rooted : Bool
  directory : List String
  file : String
  components : ∀ name ∈ directory ++ [file], IsPathName name
  notDouble : file ≠ ".."

namespace NormalPath

/-- The slash of the root. -/
def root (path : NormalPath) : String := if path.rooted then "/" else ""

/-- The directory of the file, root included. -/
def parent (path : NormalPath) : String :=
  path.root ++ String.intercalate "/" path.directory

/-- The path as it is written. -/
def bytes (path : NormalPath) : List UInt8 :=
  Text.bytes (path.root ++ String.intercalate "/" (path.directory ++ [path.file]))

/-- The place of the file in a sample. -/
def member (path : NormalPath) : Member :=
  ⟨memberKey (some path.parent) (upToDot path.file), behindDot path.file⟩

/-- Two paths are the same up to the case of what stands behind the first dot of the file name, where
no dot and nothing behind the dot are the same. -/
structure SameButForCase (path other : NormalPath) : Prop where
  parent : path.parent = other.parent
  upToDot : upToDot path.file = upToDot other.file
  behindDot : Text.lowercase (behindDot path.file) = Text.lowercase (behindDot other.file)

instance (path other : NormalPath) : Decidable (path.SameButForCase other) :=
  decidable_of_iff
    (path.parent = other.parent ∧ Archive.upToDot path.file = Archive.upToDot other.file ∧
      Text.lowercase (Archive.behindDot path.file) = Text.lowercase (Archive.behindDot other.file))
    ⟨fun ⟨parent, upToDot, behindDot⟩ => ⟨parent, upToDot, behindDot⟩,
    fun same => ⟨same.parent, same.upToDot, same.behindDot⟩⟩

variable (path : NormalPath)

/-- The components of a path, as bytes. -/
theorem isComponent_of_mem :
    ∀ part ∈ path.directory.map Text.bytes ++ [Text.bytes path.file],
      FilePath.IsComponent part := by
  intro part among
  rw [← List.map_singleton, ← List.map_append] at among
  obtain ⟨name, isName, written⟩ := List.mem_map.mp among
  rw [← written]
  exact (path.components name isName).isComponent

/-- The root is the front of a path, and its components stand behind it. -/
theorem splitFront_bytes :
    FilePath.splitFront path.bytes =
      (Text.bytes path.root,
        FilePath.join (path.directory.map Text.bytes ++ [Text.bytes path.file])) := by
  have joined : Text.bytes (String.intercalate "/" (path.directory ++ [path.file])) =
      FilePath.join (path.directory.map Text.bytes ++ [Text.bytes path.file]) := by
    rw [bytes_intercalate, List.map_append]
    rfl
  rw [bytes, Text.bytes_append, joined, root]
  by_cases rooted : path.rooted = true
  · rw [if_pos rooted, bytes_slash]
    rfl
  · rw [if_neg rooted, Text.bytes_empty, List.nil_append]
    exact FilePath.splitFront_join path.isComponent_of_mem

theorem fileName?_bytes : FilePath.fileName? path.bytes = some (Text.bytes path.file) :=
  FilePath.fileName?_of_splitFront path.splitFront_bytes path.isComponent_of_mem
    (Text.bytes_ne path.notDouble)

theorem parent?_bytes : FilePath.parent? path.bytes = some (Text.bytes path.parent) := by
  rw [FilePath.parent?_of_splitFront path.splitFront_bytes path.isComponent_of_mem, parent,
    Text.bytes_append, bytes_intercalate]

/-- Cutting a normalized path finds the place of its file. -/
theorem ofPath?_bytes : Member.ofPath? path.bytes = some path.member := by
  rw [ofPath?_of_fileName? path.fileName?_bytes, path.parent?_bytes, Option.bind_some,
    Text.text?_bytes, member]

theorem slash_not_mem_upToDot_file : '/' ∉ (upToDot path.file).toList := by
  have isFile : path.file ∈ path.directory ++ [path.file] :=
    List.mem_append_right _ (List.mem_singleton_self _)
  exact slash_not_mem_upToDot (path.components path.file isFile).slashFree

/-- Two normalized paths name the same member of samples with the same key just if they are the same
up to case. -/
theorem sameButForCase_iff {path other : NormalPath} :
    path.SameButForCase other ↔
      path.member.key = other.member.key ∧ path.member.name = other.member.name := by
  rw [member, member, Member.name, Member.name,
    memberKey_eq_memberKey_iff path.slash_not_mem_upToDot_file other.slash_not_mem_upToDot_file,
    Option.getD_some, Option.getD_some]
  constructor
  · intro same
    exact ⟨⟨same.parent, same.upToDot⟩, same.behindDot⟩
  · rintro ⟨⟨parent, upToDot⟩, behindDot⟩
    exact ⟨parent, upToDot, behindDot⟩

end NormalPath
end Archive
end Holdout
