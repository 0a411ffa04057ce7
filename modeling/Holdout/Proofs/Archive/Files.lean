import Holdout.Proofs.Archive.RoundTrip

/-!
# Files that are read

A walk over an archive reads the files before the first fault, leaving out what is no file or has no
readable name. What the path of a file says of its place in a sample is told here by how the path is
written, and not by how it is cut.
-/

namespace Holdout
namespace Archive

/-! ## What a path says -/

/-- A file name is its stem alone, or the stem with a dot and the extension behind it. -/
def IsCut (name stem extension : String) : Prop :=
  '.' ∉ stem.toList ∧ (name = stem ∧ extension = "" ∨ name = stem ++ "." ++ extension)

/-- The key of a file is its stem, behind the directory unless that leaves no trace. -/
def IsKeyOf (path : List UInt8) (stem key : String) : Prop :=
  IsUntraced path ∧ key = stem ∨
    ∃ directory, directory ≠ "" ∧ FilePath.parent? path = some (Text.bytes directory) ∧
      key = directory ++ "/" ++ stem

/-- The path says that its file is this member. -/
def Member.IsAt (member : Member) (path : List UInt8) : Prop :=
  ∃ name stem, FilePath.fileName? path = some (Text.bytes name) ∧
    IsCut name stem member.extension ∧ IsKeyOf path stem member.key

/-- The path has no file name in UTF-8. -/
def IsUnnamed (path : List UInt8) : Prop :=
  ∀ name, FilePath.fileName? path ≠ some (Text.bytes name)

section Paths

variable {path : List UInt8} {name stem extension key : String} {member : Member}

theorem dot_not_mem_upToDot (name : String) : '.' ∉ (upToDot name).toList := by
  rw [upToDot, String.toList_ofList]
  intro among
  exact absurd (List.mem_takeWhile_imp among) (by decide)

/-- There is one way to cut a name. -/
theorem isCut_iff : IsCut name stem extension ↔ stem = upToDot name ∧ extension = behindDot name := by
  constructor
  · rintro ⟨dotFree, ⟨rfl, rfl⟩ | rfl⟩
    · have plain : ∀ c ∈ name.toList, decide (c ≠ '.') = true := by
        intro c among
        rw [decide_eq_true_eq]
        rintro rfl
        exact dotFree among
      rw [upToDot, behindDot, List.takeWhile_eq_self_iff.mpr plain,
        List.dropWhile_eq_nil_iff.mpr plain, String.ofList_toList]
      exact ⟨rfl, rfl⟩
    · obtain ⟨taken, dropped⟩ := cut_at_dot dotFree extension
      rw [upToDot, behindDot, taken, dropped, List.drop_succ_cons, List.drop_zero,
        String.ofList_toList, String.ofList_toList]
      exact ⟨rfl, rfl⟩
  · rintro ⟨rfl, rfl⟩
    refine ⟨dot_not_mem_upToDot name, ?_⟩
    have whole := List.takeWhile_append_dropWhile (p := (· ≠ '.')) (l := name.toList)
    cases behind : name.toList.dropWhile (· ≠ '.') with
    | nil =>
      left
      rw [behind, List.append_nil] at whole
      rw [upToDot, behindDot, behind, whole, String.ofList_toList]
      exact ⟨rfl, rfl⟩
    | cons mark rest =>
      right
      have isDot : mark = '.' := by
        have notEmpty : name.toList.dropWhile (· ≠ '.') ≠ [] := behind ▸ List.cons_ne_nil mark rest
        have stopped := List.head_dropWhile_not (· ≠ '.') notEmpty
        simpa only [behind, List.head_cons, decide_eq_false_iff_not, not_not] using stopped
      apply String.toList_injective
      rw [String.toList_append, String.toList_append, upToDot, behindDot, behind,
        String.toList_ofList, String.toList_ofList, String.toList_ofList, List.drop_succ_cons,
        List.drop_zero, List.append_assoc]
      rw [behind, isDot] at whole
      exact whole.symm

/-- There is one key that a path can have. -/
theorem isKeyOf_iff
    {directory : List UInt8}
    (isParent : FilePath.parent? path = some directory) :
    IsKeyOf path stem key ↔ key = memberKey (text? directory) stem := by
  rw [IsKeyOf, IsUntraced, isParent]
  simp only [Option.some.injEq, exists_eq_left']
  cases read : text? directory with
  | none =>
    have unread (text : String) : directory ≠ Text.bytes text := by
      rintro rfl
      rw [Text.text?_bytes] at read
      cases read
    simp [memberKey, unread]
  | some text =>
    obtain rfl := Text.text?_eq_some_iff.mp read
    by_cases empty : text = ""
    · rw [memberKey, if_pos empty]
      constructor
      · rintro (⟨-, isStem⟩ | ⟨other, notEmpty, same, -⟩)
        · exact isStem
        · exact absurd (Text.bytes_injective same ▸ empty) notEmpty
      · intro isStem
        exact .inl ⟨.inl (by rw [empty, Text.bytes_empty]), isStem⟩
    · have notEmpty : Text.bytes text ≠ [] := by
        rw [← Text.bytes_empty]
        exact fun same => empty (Text.bytes_injective same)
      constructor
      · rintro (⟨isEmpty | unread, -⟩ | ⟨other, -, same, rfl⟩)
        · exact absurd isEmpty notEmpty
        · cases unread
        · rw [← Text.bytes_injective same, memberKey, if_neg empty]
      · rintro rfl
        exact .inr ⟨text, empty, rfl, by rw [memberKey, if_neg empty]⟩

/-- Cutting a path finds what the path says. -/
theorem ofPath?_eq_some_iff : Member.ofPath? path = some member ↔ member.IsAt path := by
  constructor
  · intro read
    obtain ⟨name, directory, cut⟩ := exists_cut read
    have made := ofPath?_of_fileName? cut.fileName
    rw [read, cut.parent, Option.bind_some] at made
    obtain rfl := Option.some.inj made
    exact ⟨name, upToDot name, cut.fileName, isCut_iff.mpr ⟨rfl, rfl⟩, (isKeyOf_iff cut.parent).mpr rfl⟩
  · rintro ⟨name, stem, named, cut, isKey⟩
    obtain ⟨-, directory, isParent⟩ := FilePath.exists_parent?_of_fileName? named
    obtain ⟨isStem, isExtension⟩ := isCut_iff.mp cut
    have isKey := (isKeyOf_iff isParent).mp isKey
    rw [ofPath?_of_fileName? named, isParent, Option.bind_some, ← isStem, ← isExtension, ← isKey]

theorem ofPath?_eq_none_iff : Member.ofPath? path = none ↔ IsUnnamed path := by
  constructor
  · intro unread name named
    rw [ofPath?_of_fileName? named] at unread
    cases unread
  · intro unnamed
    cases read : Member.ofPath? path with
    | none => rfl
    | some member =>
      obtain ⟨name, directory, cut⟩ := exists_cut read
      exact absurd cut.fileName (unnamed name)

end Paths

/-! ## What a walk reads -/

/-- A file that has been read: its place in a sample, and its data. -/
abbrev ReadFile : Type := Member × ByteArray

/-- The file of an entry, if it has a readable name and all its data. -/
def Entry.readFile? : Entry → Option ReadFile
  | .file path data => (Member.ofPath? path).map fun member => (member, data)
  | _ => none

/-- What goes wrong at an entry. The data of a file without a readable name is never read. -/
def Entry.fault? : Entry → Option Activity
  | .broken => some .readingEntry
  | .brokenFile path => (Member.ofPath? path).map fun _ => .readingMember path
  | _ => none

/-- The files that are read before the first fault. -/
def filesRead (entries : List Entry) : List ReadFile :=
  (entries.takeWhile fun entry => entry.fault?.isNone).filterMap Entry.readFile?

/-- The first thing that goes wrong. -/
def firstFault? (entries : List Entry) : Option Activity := entries.findSome? Entry.fault?

/-- Reading entries brings these files, and then this goes wrong, if anything does. -/
inductive Reads : List Entry → List ReadFile → Option Activity → Prop
  | nil : Reads [] [] none
  | other {rest : List Entry} {files : List ReadFile} {fault : Option Activity} :
      Reads rest files fault → Reads (.other :: rest) files fault
  | unnamed {path : List UInt8} {rest : List Entry} {files : List ReadFile} {fault : Option Activity}
      (data : ByteArray) :
      IsUnnamed path → Reads rest files fault → Reads (.file path data :: rest) files fault
  | unnamedBroken {path : List UInt8} {rest : List Entry} {files : List ReadFile}
      {fault : Option Activity} :
      IsUnnamed path → Reads rest files fault → Reads (.brokenFile path :: rest) files fault
  | file {path : List UInt8} {member : Member} {rest : List Entry} {files : List ReadFile}
      {fault : Option Activity} (data : ByteArray) :
      member.IsAt path → Reads rest files fault →
        Reads (.file path data :: rest) ((member, data) :: files) fault
  | broken (rest : List Entry) : Reads (.broken :: rest) [] (some .readingEntry)
  | brokenFile {path : List UInt8} {member : Member} (rest : List Entry) :
      member.IsAt path → Reads (.brokenFile path :: rest) [] (some (.readingMember path))

section Entries

variable (entry : Entry) (rest : List Entry)

/-- Nothing is read once something has gone wrong. -/
theorem read_cons_of_fault
    {activity : Activity}
    (fault : entry.fault? = some activity) :
    filesRead (entry :: rest) = [] ∧ firstFault? (entry :: rest) = some activity := by
  simp [filesRead, firstFault?, fault]

theorem read_cons_of_file
    {file : ReadFile}
    (sound : entry.fault? = none)
    (read : entry.readFile? = some file) :
    filesRead (entry :: rest) = file :: filesRead rest ∧
      firstFault? (entry :: rest) = firstFault? rest := by
  simp [filesRead, firstFault?, sound, read]

/-- An entry that is left out leaves no trace. -/
theorem read_cons_of_unread
    (sound : entry.fault? = none)
    (unread : entry.readFile? = none) :
    filesRead (entry :: rest) = filesRead rest ∧
      firstFault? (entry :: rest) = firstFault? rest := by
  simp [filesRead, firstFault?, sound, unread]

/-- Behind a fault nothing is read. -/
theorem filesRead_append (before after : List Entry) :
    filesRead (before ++ after) =
      filesRead before ++ if (firstFault? before).isNone then filesRead after else [] := by
  induction before with
  | nil => rfl
  | cons entry rest inductionHypothesis =>
    rw [List.cons_append]
    cases fault : entry.fault? with
    | some activity =>
      obtain ⟨files, found⟩ := read_cons_of_fault entry rest fault
      rw [files, found, (read_cons_of_fault entry (rest ++ after) fault).1]
      rfl
    | none =>
      cases read : entry.readFile? with
      | none =>
        obtain ⟨files, found⟩ := read_cons_of_unread entry rest fault read
        rw [files, found, (read_cons_of_unread entry (rest ++ after) fault read).1]
        exact inductionHypothesis
      | some file =>
        obtain ⟨files, found⟩ := read_cons_of_file entry rest fault read
        rw [files, found, (read_cons_of_file entry (rest ++ after) fault read).1]
        exact congrArg (file :: ·) inductionHypothesis

theorem firstFault?_append (before after : List Entry) :
    firstFault? (before ++ after) = (firstFault? before).or (firstFault? after) :=
  List.findSome?_append

end Entries

/-- The files that are read and the first fault are what reading the entries brings. -/
theorem reads_filesRead (entries : List Entry) :
    Reads entries (filesRead entries) (firstFault? entries) := by
  induction entries with
  | nil => exact .nil
  | cons entry rest inductionHypothesis =>
    cases entry with
    | other => exact .other inductionHypothesis
    | broken => exact .broken rest
    | brokenFile path =>
      cases read : Member.ofPath? path with
      | none =>
        obtain ⟨files, fault⟩ := read_cons_of_unread (.brokenFile path) rest
          (by simp [Entry.fault?, read]) rfl
        rw [files, fault]
        exact .unnamedBroken (ofPath?_eq_none_iff.mp read) inductionHypothesis
      | some member =>
        have isFault : (Entry.brokenFile path).fault? = some (.readingMember path) := by
          simp [Entry.fault?, read]
        obtain ⟨files, fault⟩ := read_cons_of_fault _ rest isFault
        rw [files, fault]
        exact .brokenFile rest (ofPath?_eq_some_iff.mp read)
    | file path data =>
      cases read : Member.ofPath? path with
      | none =>
        obtain ⟨files, fault⟩ := read_cons_of_unread (.file path data) rest rfl
          (by simp [Entry.readFile?, read])
        rw [files, fault]
        exact .unnamed data (ofPath?_eq_none_iff.mp read) inductionHypothesis
      | some member =>
        obtain ⟨files, fault⟩ := read_cons_of_file (.file path data) rest rfl
          (congrArg (Option.map (·, data)) read)
        rw [files, fault]
        exact .file data (ofPath?_eq_some_iff.mp read) inductionHypothesis

/-- Nothing else does reading the entries bring. -/
theorem Reads.eq_filesRead
    {entries : List Entry}
    {files : List ReadFile}
    {fault : Option Activity}
    (reads : Reads entries files fault) :
    files = filesRead entries ∧ fault = firstFault? entries := by
  induction reads with
  | nil => exact ⟨rfl, rfl⟩
  | @other rest files fault _ inductionHypothesis =>
    obtain ⟨sameFiles, sameFault⟩ := read_cons_of_unread .other rest rfl rfl
    rwa [sameFiles, sameFault]
  | @unnamed path rest files fault data isUnnamed _ inductionHypothesis =>
    have unread : (Entry.file path data).readFile? = none :=
      congrArg (Option.map (·, data)) (ofPath?_eq_none_iff.mpr isUnnamed)
    obtain ⟨sameFiles, sameFault⟩ := read_cons_of_unread _ rest rfl unread
    rwa [sameFiles, sameFault]
  | @unnamedBroken path rest files fault isUnnamed _ inductionHypothesis =>
    have sound : (Entry.brokenFile path).fault? = none :=
      congrArg (Option.map fun _ => _) (ofPath?_eq_none_iff.mpr isUnnamed)
    obtain ⟨sameFiles, sameFault⟩ := read_cons_of_unread _ rest sound rfl
    rwa [sameFiles, sameFault]
  | @file path member rest files fault data isAt _ inductionHypothesis =>
    have isFile : (Entry.file path data).readFile? = some (member, data) :=
      congrArg (Option.map (·, data)) (ofPath?_eq_some_iff.mpr isAt)
    obtain ⟨sameFiles, sameFault⟩ := read_cons_of_file _ rest rfl isFile
    rw [sameFiles, sameFault]
    exact inductionHypothesis.imp_left (congrArg ((member, data) :: ·))
  | broken rest =>
    obtain ⟨sameFiles, sameFault⟩ := read_cons_of_fault .broken rest rfl
    exact ⟨sameFiles.symm, sameFault.symm⟩
  | @brokenFile path member rest isAt =>
    have faulty : (Entry.brokenFile path).fault? = some (.readingMember path) :=
      congrArg (Option.map fun _ => _) (ofPath?_eq_some_iff.mpr isAt)
    obtain ⟨sameFiles, sameFault⟩ := read_cons_of_fault _ rest faulty
    exact ⟨sameFiles.symm, sameFault.symm⟩

/-- What reading the entries brings is the files that are read and the first fault. -/
theorem reads_iff {entries : List Entry} {files : List ReadFile} {fault : Option Activity} :
    Reads entries files fault ↔ files = filesRead entries ∧ fault = firstFault? entries := by
  constructor
  · exact Reads.eq_filesRead
  · rintro ⟨rfl, rfl⟩
    exact reads_filesRead entries

end Archive
end Holdout
