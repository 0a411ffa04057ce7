import Mathlib.Data.List.TakeWhile
import Holdout.Proofs.Archive.Completion
import Holdout.Proofs.Archive.NormalPath
import Holdout.Proofs.NameMap

/-!
# Files that are kept

A walk that comes to its end makes a sample of each run of files, and every file is a member of the
sample of its run. A later file of the run replaces an earlier one with the same name, so that all
files are kept just if no name stands twice in a run. As names are lowercase, it takes more than
different paths for that: they have to differ in more than case.
-/

namespace Holdout
namespace Archive

/-- The paths of the files in an archive. -/
def filePaths (entries : List Entry) : List (List UInt8) := entries.filterMap Entry.filePath?

/-- The number of members of all samples together. -/
def memberCount (samples : List Sample) : Nat :=
  (samples.flatMap fun sample => sample.members.entries).length

/-- One and only one of the samples has the key of the member and holds the data under its name. -/
def HeldOnce (samples : List Sample) (member : Member) (data : ByteArray) : Prop :=
  ∃! place : Nat, ∃ sample, samples[place]? = some sample ∧ sample.key = member.key ∧
    sample.members.find? member.name = some data

/-- The samples hold every file of an archive exactly once, and nothing else. -/
structure HoldFiles (samples : List Sample) (entries : List Entry) : Prop where
  count : memberCount samples = (filePaths entries).length
  held : ∀ path data, .file path data ∈ entries →
    ∃ member, Member.ofPath? path = some member ∧ HeldOnce samples member data

section Entries

variable {entries : List Entry}

/-- A walk without an error has come to the end of the archive. -/
theorem firstFault?_eq_none_iff {location : String} :
    firstFault? entries = none ↔
      ∀ failure, .error failure ∉ delivered (walkFrom location none entries) := by
  rw [delivered_walkFrom_none]
  constructor
  · intro sound failure among
    rw [sound] at among
    obtain ⟨run, -, same⟩ := List.mem_map.mp among
    cases same
  · intro complete
    cases fault : firstFault? entries with
    | none => rfl
    | some activity =>
      rw [fault] at complete
      exact absurd (List.mem_append_right _ (List.mem_singleton_self _)) (complete _)

/-- Without a fault all files are read. -/
theorem filesRead_of_sound (sound : firstFault? entries = none) :
    filesRead entries = entries.filterMap Entry.readFile? := by
  rw [firstFault?, List.findSome?_eq_none_iff] at sound
  rw [filesRead, List.takeWhile_eq_self_iff.mpr]
  intro entry among
  rw [sound entry among]
  rfl

/-- The file of a sound entry is read if its path can be cut. -/
theorem map_fst_readFile?
    {entry : Entry}
    (sound : entry.fault? = none) :
    entry.readFile?.map Prod.fst = entry.member? := by
  cases entry with
  | other => rfl
  | broken => cases sound
  | file path data =>
    rw [Entry.readFile?, Option.map_map, Entry.member?, Entry.filePath?, Option.bind_some]
    exact Option.map_id_apply
  | brokenFile path =>
    rw [Entry.fault?, Option.map_eq_none_iff] at sound
    rw [Entry.member?, Entry.filePath?, Option.bind_some, sound]
    rfl

/-- The files that are read are those whose paths can be cut. -/
theorem map_fst_filesRead (sound : firstFault? entries = none) :
    (filesRead entries).map Prod.fst = (filePaths entries).filterMap Member.ofPath? := by
  rw [filesRead_of_sound sound, filePaths, List.map_filterMap, List.filterMap_filterMap]
  apply List.filterMap_congr
  intro entry among
  exact map_fst_readFile? (List.findSome?_eq_none_iff.mp sound entry among)

/-- The files of normalized paths are all read. -/
theorem map_fst_filesRead_of_normal
    (sound : firstFault? entries = none)
    {paths : List NormalPath}
    (normal : filePaths entries = paths.map NormalPath.bytes) :
    (filesRead entries).map Prod.fst = paths.map NormalPath.member := by
  rw [map_fst_filesRead sound, normal, List.filterMap_map, ← List.filterMap_eq_map]
  exact List.filterMap_congr fun path _ => path.ofPath?_bytes

end Entries

section Members

/-- A sample has as many members as its run has files just if no name stands twice in the run. -/
theorem size_members_sampleOfRun_iff {run : List ReadFile} :
    (sampleOfRun run).members.size = run.length ↔ (run.map fun file => file.1.name).Nodup := by
  have length : (run.map fun file => (file.1.name, file.2)).length = run.length :=
    List.length_map _
  rw [members_sampleOfRun, ← length, NameMap.size_ofList_eq_length_iff, List.map_map]
  rfl

theorem size_members_sampleOfRun_le (run : List ReadFile) :
    (sampleOfRun run).members.size ≤ run.length := by
  have length : (run.map fun file => (file.1.name, file.2)).length = run.length :=
    List.length_map _
  rw [members_sampleOfRun, ← length]
  exact NameMap.size_ofList_le _

/-- Lists that keep at most as many elements as there are keep as many together just if each of them
does. -/
theorem length_flatMap_eq_iff_of_le
    {lists : List (List α)}
    {kept : List α → List β}
    (le : ∀ list ∈ lists, (kept list).length ≤ list.length) :
    (lists.flatMap kept).length ≤ lists.flatten.length ∧
      ((lists.flatMap kept).length = lists.flatten.length ↔
        ∀ list ∈ lists, (kept list).length = list.length) := by
  induction lists with
  | nil => simp
  | cons first others inductionHypothesis =>
    rw [List.forall_mem_cons] at le
    obtain ⟨othersLe, sameOthers⟩ := inductionHypothesis le.2
    have firstLe := le.1
    rw [List.flatMap_cons, List.flatten_cons, List.length_append, List.length_append,
      List.forall_mem_cons, ← sameOthers]
    omega

/-- No file is lost between the runs. -/
theorem flatten_runs (files : List ReadFile) : (runs files).flatten = files :=
  List.flatten_splitBy _ _

/-- All files are members of samples just if no name stands twice in a run. -/
theorem memberCount_eq_length_iff {files : List ReadFile} :
    memberCount ((runs files).map sampleOfRun) = files.length ↔
      ∀ run ∈ runs files, (run.map fun file => file.1.name).Nodup := by
  have le : ∀ run ∈ runs files, (sampleOfRun run).members.entries.length ≤ run.length :=
    fun run _ => size_members_sampleOfRun_le run
  have counted := (length_flatMap_eq_iff_of_le le).2
  rw [flatten_runs] at counted
  rw [memberCount, List.flatMap_map, counted]
  exact forall₂_congr fun run _ => size_members_sampleOfRun_iff

end Members

section Held

/-- What a file is found by: the key of its sample and its name there. -/
def address (file : ReadFile) : String × String := (file.1.key, file.1.name)

variable {files run : List ReadFile} {file : ReadFile}

/-- Files of a run that have different addresses have different names. -/
theorem nodup_names_of_mem_runs
    (distinct : (files.map address).Nodup)
    (among : run ∈ runs files) :
    (run.map fun file => file.1.name).Nodup := by
  have inside : run.Sublist files := by
    have part : run.Sublist (runs files).flatten := List.sublist_flatten_of_mem among
    rw [flatten_runs] at part
    exact part
  have addresses : run.map address =
      (run.map fun file => file.1.name).map (Prod.mk (sampleOfRun run).key) := by
    rw [List.map_map]
    apply List.map_congr_left
    intro file inRun
    exact congrArg (·, file.1.name) ((mem_runs among).2 file inRun)
  have ofRun : (run.map address).Nodup := distinct.sublist (inside.map address)
  rw [addresses] at ofRun
  exact ofRun.of_map _

/-- A sample holds the data of each file of its run if all names are different. -/
theorem find?_sampleOfRun
    (distinct : (run.map fun file => file.1.name).Nodup)
    (inRun : file ∈ run) :
    (sampleOfRun run).members.find? file.1.name = some file.2 := by
  have pairs : ((run.map fun file => (file.1.name, file.2)).map Prod.fst).Nodup := by
    rw [List.map_map]
    exact distinct
  rw [members_sampleOfRun]
  exact NameMap.find?_ofList_of_mem pairs (List.mem_map.mpr ⟨file, inRun, rfl⟩)

/-- Whatever a sample holds under a name is the data of a file of its run. -/
theorem address_mem_of_find?_sampleOfRun
    {name : String}
    {data : ByteArray}
    (among : run ∈ runs files)
    (found : (sampleOfRun run).members.find? name = some data) :
    ((sampleOfRun run).key, name) ∈ run.map address := by
  rw [members_sampleOfRun] at found
  obtain ⟨file, inRun, same⟩ := List.mem_map.mp (NameMap.mem_of_find?_ofList found)
  refine List.mem_map.mpr ⟨file, inRun, ?_⟩
  rw [address, (mem_runs among).2 file inRun, (Prod.mk.inj same).1]

/-- Two runs have no address in common if all addresses are different. -/
theorem place_eq_of_mem_address
    (distinct : (files.map address).Nodup)
    {place other : Nat}
    {run next : List ReadFile}
    (isRun : (runs files)[place]? = some run)
    (isRunToo : (runs files)[other]? = some next)
    {sought : String × String}
    (inRun : sought ∈ run.map address)
    (inNext : sought ∈ next.map address) :
    place = other := by
  have cut : ((runs files).map (List.map address)).flatten = files.map address := by
    rw [← List.map_flatten, flatten_runs]
  rw [← cut, List.nodup_flatten] at distinct
  have apart := List.pairwise_iff_getElem.mp distinct.2
  obtain ⟨inside, same⟩ := List.getElem?_eq_some_iff.mp isRun
  obtain ⟨insideToo, sameToo⟩ := List.getElem?_eq_some_iff.mp isRunToo
  rcases Nat.lt_trichotomy place other with less | equal | greater
  · have disjoint := apart place other (by simpa using inside) (by simpa using insideToo) less
    rw [List.getElem_map, List.getElem_map, same, sameToo] at disjoint
    exact absurd inNext (disjoint inRun)
  · exact equal
  · have disjoint := apart other place (by simpa using insideToo) (by simpa using inside) greater
    rw [List.getElem_map, List.getElem_map, same, sameToo] at disjoint
    exact absurd inRun (disjoint inNext)

/-- Files with different addresses are each held by one sample. -/
theorem heldOnce_of_mem
    (distinct : (files.map address).Nodup)
    (isFile : file ∈ files) :
    HeldOnce ((runs files).map sampleOfRun) file.1 file.2 := by
  rw [← flatten_runs files, List.mem_flatten] at isFile
  obtain ⟨run, among, inRun⟩ := isFile
  obtain ⟨place, isRun⟩ := List.getElem?_of_mem among
  refine ⟨place, ⟨sampleOfRun run, ?_, ?_, ?_⟩, ?_⟩
  · rw [List.getElem?_map, isRun]
    rfl
  · exact ((mem_runs among).2 file inRun).symm
  · exact find?_sampleOfRun (nodup_names_of_mem_runs distinct among) inRun
  · rintro other ⟨sample, isSample, sameKey, found⟩
    rw [List.getElem?_map, Option.map_eq_some_iff] at isSample
    obtain ⟨next, isRunToo, same⟩ := isSample
    rw [← same] at sameKey found
    have inNext : address file ∈ next.map address := by
      rw [address, ← sameKey]
      exact address_mem_of_find?_sampleOfRun (List.mem_of_getElem? isRunToo) found
    exact place_eq_of_mem_address distinct isRunToo isRun inNext
      (List.mem_map_of_mem inRun)

end Held

/-- Paths that differ in more than case have files with different addresses. -/
theorem nodup_address_of_normal
    {entries : List Entry}
    (sound : firstFault? entries = none)
    {paths : List NormalPath}
    (normal : filePaths entries = paths.map NormalPath.bytes)
    (distinct : (filePaths entries).Nodup)
    (apart : ∀ path ∈ paths, ∀ other ∈ paths,
      path.SameButForCase other → path.bytes = other.bytes) :
    ((filesRead entries).map address).Nodup := by
  have addresses : (filesRead entries).map address =
      paths.map fun path => (path.member.key, path.member.name) := by
    have members := congrArg (List.map fun member : Member => (member.key, member.name))
      (map_fst_filesRead_of_normal sound normal)
    rw [List.map_map, List.map_map] at members
    exact members
  rw [normal, List.nodup_iff_pairwise_ne, List.pairwise_map] at distinct
  rw [addresses, List.nodup_iff_pairwise_ne, List.pairwise_map]
  refine distinct.imp_of_mem ?_
  intro path other among amongToo different same
  rw [Prod.mk.injEq] at same
  exact different (apart path among other amongToo (NormalPath.sameButForCase_iff.mpr same))

/-- If entries of files with different normalized paths are walked to their end, the samples that are
delivered have as many members as there are files just if no name stands twice among the files of a
run. If no two of the paths are the same but for the case of what stands behind the first dot of the
file name, each file is in exactly one sample with its key, which holds its data under its name. -/
theorem walkFrom_holds_files
    (location : String)
    {entries : List Entry}
    {paths : List NormalPath}
    (normal : filePaths entries = paths.map NormalPath.bytes)
    (distinct : (filePaths entries).Nodup)
    (complete : ∀ failure, .error failure ∉ delivered (walkFrom location none entries)) :
    ∃ samples,
      delivered (walkFrom location none entries) = samples.map (fun sample => .ok (.sample sample)) ∧
      (memberCount samples = (filePaths entries).length ↔
        ∀ run ∈ runs (filesRead entries), (run.map fun file => file.1.name).Nodup) ∧
      ((∀ path ∈ paths, ∀ other ∈ paths,
          path.SameButForCase other → path.bytes = other.bytes) →
        HoldFiles samples entries) := by
  have sound : firstFault? entries = none := firstFault?_eq_none_iff.mpr complete
  have length : (filePaths entries).length = (filesRead entries).length := by
    have members := congrArg List.length (map_fst_filesRead_of_normal sound normal)
    rw [List.length_map, List.length_map] at members
    rw [normal, List.length_map, members]
  refine ⟨(runs (filesRead entries)).map sampleOfRun, ?_, ?_, ?_⟩
  · rw [delivered_walkFrom_none, sound, runResults, List.map_map]
    rfl
  · rw [length]
    exact memberCount_eq_length_iff
  · intro apart
    have addresses := nodup_address_of_normal sound normal distinct apart
    refine ⟨?_, ?_⟩
    · rw [length]
      exact memberCount_eq_length_iff.mpr fun run => nodup_names_of_mem_runs addresses
    · intro path data isEntry
      have isPath : path ∈ filePaths entries :=
        List.mem_filterMap.mpr ⟨.file path data, isEntry, rfl⟩
      rw [normal] at isPath
      obtain ⟨normalPath, -, same⟩ := List.mem_map.mp isPath
      have cut : Member.ofPath? path = some normalPath.member := same ▸ normalPath.ofPath?_bytes
      have isFile : (normalPath.member, data) ∈ filesRead entries := by
        rw [filesRead_of_sound sound]
        exact List.mem_filterMap.mpr ⟨.file path data, isEntry, congrArg (Option.map (·, data)) cut⟩
      exact ⟨normalPath.member, cut, heldOnce_of_mem addresses isFile⟩

/-- So does a walk over an archive. -/
theorem walk_holds_files
    (location : String)
    (body : Body)
    {paths : List NormalPath}
    (normal : filePaths (entries body) = paths.map NormalPath.bytes)
    (distinct : (filePaths (entries body)).Nodup)
    (complete : ∀ failure, .error failure ∉ delivered (walk location body)) :
    ∃ samples,
      delivered (walk location body) = samples.map (fun sample => .ok (.sample sample)) ∧
      (memberCount samples = (filePaths (entries body)).length ↔
        ∀ run ∈ runs (filesRead (entries body)), (run.map fun file => file.1.name).Nodup) ∧
      ((∀ path ∈ paths, ∀ other ∈ paths,
          path.SameButForCase other → path.bytes = other.bytes) →
        HoldFiles samples (entries body)) :=
  walkFrom_holds_files location normal distinct complete

/-- The paths of the files in the small archive. -/
def smallPaths : List NormalPath :=
  [⟨false, ["shard.0"], "a.seg.png", by decide, by decide⟩,
    ⟨false, ["shard.0"], "a.jpeg", by decide, by decide⟩,
    ⟨false, [], "b.cls", by decide, by decide⟩]

/-- The samples of the small archive hold its three files. -/
theorem walk_holds_small_files :
    ∃ samples,
      delivered (walk "data.tar" smallBody) = samples.map (fun sample => .ok (.sample sample)) ∧
      HoldFiles samples (entries smallBody) := by
  have normal : filePaths (entries smallBody) = smallPaths.map NormalPath.bytes := by
    rw [entries_smallBody]
    decide +kernel
  have distinct : (filePaths (entries smallBody)).Nodup := by
    rw [normal]
    decide +kernel
  have complete : ∀ failure, .error failure ∉ delivered (walk "data.tar" smallBody) := by
    apply firstFault?_eq_none_iff.mp
    rw [entries_smallBody]
    rfl
  have apart : ∀ path ∈ smallPaths, ∀ other ∈ smallPaths,
      path.SameButForCase other → path.bytes = other.bytes := by
    decide +kernel
  obtain ⟨samples, all, -, held⟩ :=
    walk_holds_files "data.tar" smallBody normal distinct complete
  exact ⟨samples, all, held apart⟩

/-- The header of a file with one byte, whose path ends in capital letters. -/
def capitalHeader : Header := fileHeader "a.JPG" "00000000001" "006456"

/-- The header of a file with one byte, of the same path but for case. -/
def smallHeader : Header := fileHeader "a.jpg" "00000000001" "006616"

/-- An archive of two files with paths that differ in case only. -/
def casedBody : Body := ofStored [⟨capitalHeader, [0x31]⟩, ⟨smallHeader, [0x32]⟩]

theorem entries_casedBody :
    entries casedBody =
      [.file capitalHeader.path ⟨#[0x31]⟩, .file smallHeader.path ⟨#[0x32]⟩] := by
  have capital : (⟨capitalHeader, [0x31]⟩ : Stored).entry = .file capitalHeader.path ⟨#[0x31]⟩ := by
    rw [Stored.entry, if_pos (by decide +kernel)]
  have small : (⟨smallHeader, [0x32]⟩ : Stored).entry = .file smallHeader.path ⟨#[0x32]⟩ := by
    rw [Stored.entry, if_pos (by decide +kernel)]
  rw [casedBody, entries_ofStored (by decide +kernel) (by decide +kernel), List.map_cons, capital,
    List.map_singleton, small]

/-- The first of two files whose paths differ in case only is lost, though the archive is walked to
its end. -/
theorem cased_file_lost :
    ∃ (paths : List NormalPath) (samples : List Sample),
      filePaths (entries casedBody) = paths.map NormalPath.bytes ∧
      (filePaths (entries casedBody)).Nodup ∧
      delivered (walk "mem://v.tar" casedBody) =
        samples.map (fun sample => .ok (.sample sample)) ∧
      memberCount samples = 1 ∧
      ¬HoldFiles samples (entries casedBody) := by
  have capital : Member.ofPath? capitalHeader.path = some ⟨"a", "JPG"⟩ := by decide +kernel
  have small : Member.ofPath? smallHeader.path = some ⟨"a", "jpg"⟩ := by decide +kernel
  have paths : filePaths (entries casedBody) = [capitalHeader.path, smallHeader.path] := by
    rw [entries_casedBody]
    rfl
  have single : memberCount [.ofMembers "a" [("JPG", ⟨#[0x31]⟩), ("jpg", ⟨#[0x32]⟩)]] = 1 := by
    rw [memberCount, List.flatMap_singleton, members_ofMembers]
    exact (NameMap.size_ofList _).trans (by decide +kernel)
  refine ⟨[⟨false, [], "a.JPG", by decide, by decide⟩, ⟨false, [], "a.jpg", by decide, by decide⟩],
    [.ofMembers "a" [("JPG", ⟨#[0x31]⟩), ("jpg", ⟨#[0x32]⟩)]], ?_, ?_, ?_, single, ?_⟩
  · rw [paths]
    decide +kernel
  · rw [paths]
    decide +kernel
  · rw [walk, entries_casedBody]
    simp only [walkFrom, capital, small]
    rfl
  · intro hold
    have count := hold.count
    rw [single, paths] at count
    cases count

end Archive
end Holdout
