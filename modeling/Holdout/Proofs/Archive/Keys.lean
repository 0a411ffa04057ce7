import Holdout.Archive.Samples
import Holdout.Proofs.FilePath
import Holdout.Proofs.Text.Bytes

/-!
# Keys of files

The key of a file tells its directory and its file name up to the first dot, as the two are cut apart
at the last slash. A directory that is not UTF-8 leaves no trace in the key, and neither does one that
is empty, so that files of such directories are told apart by their names only.
-/

namespace Holdout

namespace FilePath

/-- The file name up to its first dot. -/
def nameUpToDot? (path : List UInt8) : Option (List UInt8) :=
  (fileName? path).map fun name => name.takeWhile (· ≠ dot)

/-- No part of a path has a slash. -/
theorem slash_not_mem_of_mem_parts {path part : List UInt8} (among : part ∈ parts path) :
    slash ∉ part := by
  induction path generalizing part with
  | nil =>
    rw [List.mem_singleton.mp among]
    exact List.not_mem_nil
  | cons byte rest inductionHypothesis =>
    rw [parts] at among
    by_cases isSlash : byte = slash
    · rw [if_pos isSlash] at among
      rcases List.mem_cons.mp among with empty | behind
      · rw [empty]
        exact List.not_mem_nil
      · exact inductionHypothesis behind
    · rw [if_neg isSlash] at among
      cases found : parts rest with
      | nil =>
        rw [found] at among
        rw [List.mem_singleton.mp among, List.mem_singleton]
        exact Ne.symm isSlash
      | cons first others =>
        rw [found] at among inductionHypothesis
        rcases List.mem_cons.mp among with isFirst | behind
        · rw [isFirst, List.mem_cons, not_or]
          exact ⟨Ne.symm isSlash, inductionHypothesis List.mem_cons_self⟩
        · exact inductionHypothesis (List.mem_cons_of_mem _ behind)

/-- A path with a file name has a parent, and no slash in the name. -/
theorem exists_parent?_of_fileName?
    {path name : List UInt8}
    (named : fileName? path = some name) :
    slash ∉ name ∧ ∃ directory, parent? path = some directory := by
  rw [fileName?] at named
  rw [parent?]
  cases found : lastFirst (splitFront path).2 with
  | nil =>
    rw [found] at named
    cases named
  | cons last before =>
    rw [found] at named
    have isName : last = name := by
      by_cases double : last = [dot, dot]
      · simp [double] at named
      · simpa [double] using named
    have isPart : last ∈ parts (splitFront path).2 := by
      have kept : last ∈ lastFirst (splitFront path).2 := by
        rw [found]
        exact List.mem_cons_self
      exact List.mem_reverse.mp (List.dropWhile_subset _ kept)
    rw [← isName]
    refine ⟨slash_not_mem_of_mem_parts isPart, ?_⟩
    simp only [found]
    exact ⟨_, rfl⟩

end FilePath

namespace Archive

/-- A text up to its first dot. -/
def upToDot (name : String) : String := String.ofList (name.toList.takeWhile (· ≠ '.'))

/-- What stands behind the first dot of a name, if there is one. -/
def behindDot (name : String) : String :=
  String.ofList ((name.toList.dropWhile (· ≠ '.')).drop 1)

/-- A path with a file name in UTF-8 can be cut. -/
theorem ofPath?_of_fileName?
    {path : List UInt8}
    {name : String}
    (named : FilePath.fileName? path = some (Text.bytes name)) :
    Member.ofPath? path =
      some ⟨memberKey ((FilePath.parent? path).bind text?) (upToDot name), behindDot name⟩ := by
  rw [Member.ofPath?, named]
  simp only [Option.bind_eq_bind, Option.bind_some, Text.text?_bytes]
  rfl

/-- What a path says that has been cut: the file name and the directory, of which the key has been
made. -/
structure Cut (path : List UInt8) (member : Member) (name : String) (directory : List UInt8) :
    Prop where
  fileName : FilePath.fileName? path = some (Text.bytes name)
  parent : FilePath.parent? path = some directory
  slashFree : '/' ∉ name.toList
  key : member.key = memberKey (text? directory) (upToDot name)

theorem exists_cut
    {path : List UInt8}
    {member : Member}
    (read : Member.ofPath? path = some member) :
    ∃ name directory, Cut path member name directory := by
  rw [Member.ofPath?, Option.bind_eq_bind, Option.bind_eq_some_iff] at read
  obtain ⟨encoded, isName, read⟩ := read
  rw [Option.bind_eq_bind, Option.bind_eq_some_iff] at read
  obtain ⟨name, isText, same⟩ := read
  obtain ⟨slashFree, directory, isParent⟩ := FilePath.exists_parent?_of_fileName? isName
  rw [Text.text?_eq_some_iff.mp isText] at isName slashFree
  refine ⟨name, directory, isName, isParent, ?_, ?_⟩
  · intro among
    rw [Text.bytes_eq_flatMap] at slashFree
    exact slashFree (List.mem_flatMap.mpr ⟨'/', among, List.mem_singleton_self _⟩)
  · rw [← Option.some.inj same, isParent, Option.bind_some]
    rfl

/-- What stands behind the last separator determines what stands before it. -/
theorem eq_of_append_cons_eq
    {front other rest tail : List α}
    {separator : α}
    (absent : separator ∉ rest)
    (absentToo : separator ∉ tail)
    (same : front ++ separator :: rest = other ++ separator :: tail) :
    front = other ∧ rest = tail := by
  rcases List.append_eq_append_iff.mp same with ⟨between, split, behind⟩ | ⟨between, split, behind⟩
  · cases between with
    | nil =>
      rw [List.append_nil] at split
      exact ⟨split.symm, List.cons.inj behind |>.2⟩
    | cons first others =>
      rw [(List.cons.inj behind).2] at absent
      exact absurd (List.mem_append_right _ List.mem_cons_self) absent
  · cases between with
    | nil =>
      rw [List.append_nil] at split
      exact ⟨split, (List.cons.inj behind).2.symm⟩
    | cons first others =>
      rw [(List.cons.inj behind).2] at absentToo
      exact absurd (List.mem_append_right _ List.mem_cons_self) absentToo

/-- The characters of a key. A directory that is missing or empty leaves no slash behind. -/
theorem toList_memberKey (directory : Option String) (stem : String) :
    (memberKey directory stem).toList =
      if directory.getD "" = "" then stem.toList
      else (directory.getD "").toList ++ '/' :: stem.toList := by
  cases directory with
  | none => rfl
  | some directory =>
    rw [memberKey, Option.getD_some]
    split
    · rfl
    · rw [String.toList_append, String.toList_append, List.append_assoc]
      rfl

/-- Keys are equal just if they are made from the same stem and from the same directory, where a
directory that is missing counts as empty. -/
theorem memberKey_eq_memberKey_iff
    {directory other : Option String}
    {stem next : String}
    (slashFree : '/' ∉ stem.toList)
    (slashFreeToo : '/' ∉ next.toList) :
    memberKey directory stem = memberKey other next ↔
      directory.getD "" = other.getD "" ∧ stem = next := by
  rw [← String.toList_inj, toList_memberKey, toList_memberKey]
  constructor
  · intro same
    split at same <;> split at same
    · rename_i empty emptyToo
      exact ⟨empty.trans emptyToo.symm, String.toList_inj.mp same⟩
    · rw [same] at slashFree
      exact absurd (List.mem_append_right _ List.mem_cons_self) slashFree
    · rw [← same] at slashFreeToo
      exact absurd (List.mem_append_right _ List.mem_cons_self) slashFreeToo
    · obtain ⟨sameDirectory, sameStem⟩ := eq_of_append_cons_eq slashFree slashFreeToo same
      exact ⟨String.toList_inj.mp sameDirectory, String.toList_inj.mp sameStem⟩
  · rintro ⟨sameDirectory, sameStem⟩
    rw [sameDirectory, sameStem]

/-- The directory of a path leaves no trace in the key: it is empty, or it is not UTF-8. -/
def IsUntraced (path : List UInt8) : Prop :=
  ∃ directory, FilePath.parent? path = some directory ∧
    (directory = [] ∨ text? directory = none)

/-- A directory leaves no trace just if the text that it is taken for is empty. -/
theorem getD_text?_eq_empty_iff {directory : List UInt8} :
    (text? directory).getD "" = "" ↔ directory = [] ∨ text? directory = none := by
  cases read : text? directory with
  | none => simp
  | some text =>
    rw [Text.text?_eq_some_iff.mp read, Option.getD_some]
    simp only [reduceCtorEq, or_false]
    constructor
    · intro empty
      rw [empty, Text.bytes_empty]
    · intro empty
      exact Text.bytes_injective (empty.trans Text.bytes_empty.symm)

/-- Directories are taken for the same text just if they are equal or both leave no trace. -/
theorem getD_text?_eq_iff {directory other : List UInt8} :
    (text? directory).getD "" = (text? other).getD "" ↔
      directory = other ∨
        ((directory = [] ∨ text? directory = none) ∧ (other = [] ∨ text? other = none)) := by
  rw [← getD_text?_eq_empty_iff, ← getD_text?_eq_empty_iff]
  constructor
  · intro same
    by_cases empty : (text? directory).getD "" = ""
    · exact Or.inr ⟨empty, same ▸ empty⟩
    · left
      cases read : text? directory with
      | none =>
        rw [read] at empty
        exact absurd rfl empty
      | some text =>
        cases readToo : text? other with
        | none =>
          rw [same, readToo] at empty
          exact absurd rfl empty
        | some others =>
          rw [read, readToo, Option.getD_some, Option.getD_some] at same
          rw [Text.text?_eq_some_iff.mp read, Text.text?_eq_some_iff.mp readToo, same]
  · rintro (same | ⟨empty, emptyToo⟩)
    · rw [same]
    · rw [empty, emptyToo]

section Keys

variable {first second : List UInt8} {one other : Member}

theorem slash_not_mem_upToDot {name : String} (slashFree : '/' ∉ name.toList) :
    '/' ∉ (upToDot name).toList := by
  rw [upToDot, String.toList_ofList]
  exact fun among => slashFree (List.takeWhile_subset _ among)

theorem Cut.nameUpToDot?_eq
    {path : List UInt8}
    {member : Member}
    {name : String}
    {directory : List UInt8}
    (cut : Cut path member name directory) :
    FilePath.nameUpToDot? path = some (Text.bytes (upToDot name)) := by
  rw [FilePath.nameUpToDot?, cut.fileName, Option.map_some, upToDot, Text.bytes_takeWhile]

theorem Cut.isUntraced_iff
    {path : List UInt8}
    {member : Member}
    {name : String}
    {directory : List UInt8}
    (cut : Cut path member name directory) :
    IsUntraced path ↔ directory = [] ∨ text? directory = none := by
  rw [IsUntraced, cut.parent]
  simp

/-- Two files have the same key just if their names agree up to the first dot and their directories
are equal, or neither directory leaves a trace in the key. -/
theorem key_eq_key_iff
    (read : Member.ofPath? first = some one)
    (readToo : Member.ofPath? second = some other) :
    one.key = other.key ↔
      FilePath.nameUpToDot? first = FilePath.nameUpToDot? second ∧
        (FilePath.parent? first = FilePath.parent? second ∨
          (IsUntraced first ∧ IsUntraced second)) := by
  obtain ⟨name, directory, cut⟩ := exists_cut read
  obtain ⟨nameToo, directoryToo, cutToo⟩ := exists_cut readToo
  rw [cut.key, cutToo.key,
    memberKey_eq_memberKey_iff (slash_not_mem_upToDot cut.slashFree)
      (slash_not_mem_upToDot cutToo.slashFree),
    getD_text?_eq_iff, cut.nameUpToDot?_eq, cutToo.nameUpToDot?_eq, cut.isUntraced_iff,
    cutToo.isUntraced_iff, cut.parent, cutToo.parent, Option.some.injEq, Option.some.injEq,
    and_comm]
  exact and_congr_left' ⟨congrArg Text.bytes, Text.bytes_injective⟩

end Keys

/-- Two files of one directory whose names agree up to the first dot. -/
theorem key_eq_key_in_shard :
    ∃ one other,
      Member.ofPath? (Text.bytes "/shard.0/a.seg.png") = some one ∧
      Member.ofPath? (Text.bytes "/shard.0/a.JPEG") = some other ∧
      one.key = other.key ∧
      FilePath.nameUpToDot? (Text.bytes "/shard.0/a.seg.png") =
        FilePath.nameUpToDot? (Text.bytes "/shard.0/a.JPEG") := by
  have picture : Member.ofPath? (Text.bytes "/shard.0/a.seg.png") =
      some ⟨"/shard.0/a", "seg.png"⟩ := by decide +kernel
  have photograph : Member.ofPath? (Text.bytes "/shard.0/a.JPEG") =
      some ⟨"/shard.0/a", "JPEG"⟩ := by decide +kernel
  exact ⟨_, _, picture, photograph, rfl, ((key_eq_key_iff picture photograph).mp rfl).1⟩

/-- A picture in a directory that is not UTF-8. -/
def strayPicture : List UInt8 := 0xFF :: FilePath.slash :: Text.bytes "a.jpeg"

/-- A label in no directory. -/
def plainLabel : List UInt8 := Text.bytes "a.cls"

/-- Files of different directories make one sample, as one of the directories is not UTF-8. -/
theorem stray_directory_shares_sample :
    Member.ofPath? strayPicture = some ⟨"a", "jpeg"⟩ ∧
      Member.ofPath? plainLabel = some ⟨"a", "cls"⟩ ∧
      FilePath.parent? strayPicture ≠ FilePath.parent? plainLabel ∧
      delivered (walkFrom "data.tar" none
          [.file strayPicture .empty, .file plainLabel .empty]) =
        [.ok (.sample (.ofMembers "a" [("jpeg", .empty), ("cls", .empty)]))] := by
  have picture : Member.ofPath? strayPicture = some ⟨"a", "jpeg"⟩ := by decide +kernel
  have label : Member.ofPath? plainLabel = some ⟨"a", "cls"⟩ := by decide +kernel
  refine ⟨picture, label, by decide +kernel, ?_⟩
  simp only [walkFrom, picture, label]
  rfl

end Archive
end Holdout
