import Holdout.Proofs.Archive.Runs

/-!
# Samples before a failure

A sample is complete when a file with another key shows up. The walk reads the data of that file
before it hands out the sample: if the data can be read, the sample comes out whatever goes wrong
behind it, and if not, the failure takes its place.
-/

namespace Holdout
namespace Archive

/-- The path of a file whose header has been read, whether or not its data can be. -/
def Entry.filePath? : Entry → Option (List UInt8)
  | .file path _ => some path
  | .brokenFile path => some path
  | _ => none

/-- The member of a file that has shown up. -/
def Entry.member? (entry : Entry) : Option Member := entry.filePath?.bind Member.ofPath?

/-- The samples of the files read so far, the last one included, as they are handed out. -/
def samplesOf (entries : List Entry) : List ItemResult :=
  (runs (filesRead entries)).map fun run => .ok (.sample (sampleOfRun run))

/-- A file that has shown up is read, or its data is what goes wrong. -/
theorem read_or_fault
    {entry : Entry}
    {member : Member}
    (shown : entry.member? = some member) :
    (∃ data, entry.fault? = none ∧ entry.readFile? = some (member, data)) ∨
      ∃ activity, entry.fault? = some activity := by
  cases entry with
  | other => cases shown
  | broken => cases shown
  | file path data =>
    have named : Member.ofPath? path = some member := shown
    exact .inl ⟨data, rfl, congrArg (Option.map (·, data)) named⟩
  | brokenFile path =>
    have named : Member.ofPath? path = some member := shown
    exact .inr ⟨.readingMember path, congrArg (Option.map fun _ => _) named⟩

section Next

variable {location : String} {before rest : List Entry} {next : Entry} {member : Member}

/-- The samples before a file with another key come out if its data can be read. -/
theorem samplesOf_prefix_of_sound
    (sound : firstFault? before = none)
    (shown : next.member? = some member)
    (apart : ∀ last ∈ (filesRead before).getLast?, last.1.key ≠ member.key)
    (readable : next.fault? = none) :
    samplesOf before <+: delivered (walkFrom location none (before ++ next :: rest)) := by
  rcases read_or_fault shown with ⟨data, -, isFile⟩ | ⟨activity, faulty⟩
  · have files : filesRead (before ++ next :: rest) =
        filesRead before ++ (member, data) :: filesRead rest := by
      rw [filesRead_append, sound, (read_cons_of_file next rest readable isFile).1]
      rfl
    rw [delivered_walkFrom_none, files,
      runResults_append (List.cons_ne_nil _ _) (runs_append_cons apart (filesRead rest))]
    exact List.prefix_append _ _
  · rw [readable] at faulty
    cases faulty

/-- If the data of the file behind some entries cannot be read, the failure takes the place of the
last sample. -/
theorem delivered_of_fault
    (sound : firstFault? before = none)
    {activity : Activity}
    (faulty : next.fault? = some activity) :
    delivered (walkFrom location none (before ++ next :: rest)) =
      (samplesOf before).dropLast ++ [.error (walkFailure location activity)] := by
  obtain ⟨nothing, fault⟩ := read_cons_of_fault next rest faulty
  rw [delivered_walkFrom_none, filesRead_append, firstFault?_append, sound, nothing, fault,
    samplesOf, ← List.map_dropLast]
  rw [Option.isNone_none, if_pos rfl, List.append_nil, Option.none_or, runResults]

/-- So the last sample does not come out. -/
theorem not_samplesOf_prefix_of_fault
    (sound : firstFault? before = none)
    {last : ReadFile}
    (isLast : (filesRead before).getLast? = some last)
    {activity : Activity}
    (faulty : next.fault? = some activity) :
    ¬samplesOf before <+: delivered (walkFrom location none (before ++ next :: rest)) := by
  intro survives
  rw [delivered_of_fault sound faulty] at survives
  have nonempty : samplesOf before ≠ [] := by
    intro none
    have noRuns : runs (filesRead before) = [] := List.map_eq_nil_iff.mp none
    rw [runs, List.splitBy_eq_nil] at noRuns
    rw [noRuns] at isLast
    cases isLast
  -- There are as many results as samples, so the failure would have to be a sample.
  have length : (samplesOf before).length =
      ((samplesOf before).dropLast ++ [Except.error (walkFailure location activity)]).length := by
    have positive := List.length_pos_iff.mpr nonempty
    rw [List.length_append, List.length_dropLast, List.length_singleton]
    omega
  have among : Except.error (walkFailure location activity) ∈ samplesOf before := by
    rw [survives.eq_of_length length]
    exact List.mem_append_right _ List.mem_cons_self
  obtain ⟨run, -, same⟩ := List.mem_map.mp among
  cases same

end Next

/-- A sample is complete when a file with another key shows up, and all samples that are complete
then are handed out if and only if the data of that file can be read. In that case they come out
before any failure; otherwise the failure comes in the place of the last of them. -/
theorem complete_samples_delivered_iff
    (location : String)
    (body : Body)
    {before rest : List Entry}
    {next : Entry}
    {member : Member}
    {last : ReadFile}
    (split : entries body = before ++ next :: rest)
    (sound : firstFault? before = none)
    (isLast : (filesRead before).getLast? = some last)
    (shown : next.member? = some member)
    (different : last.1.key ≠ member.key) :
    (samplesOf before <+: delivered (walk location body) ↔ next.fault? = none) ∧
      ∀ activity, next.fault? = some activity →
        delivered (walk location body) =
          (samplesOf before).dropLast ++ [.error (walkFailure location activity)] := by
  rw [walk, split]
  refine ⟨⟨fun survives => ?_, fun readable => ?_⟩, fun activity => delivered_of_fault sound⟩
  · cases fault : next.fault? with
    | none => rfl
    | some activity => exact absurd survives (not_samplesOf_prefix_of_fault sound isLast fault)
  · have apart : ∀ other ∈ (filesRead before).getLast?, other.1.key ≠ member.key := by
      intro other isOther
      rw [isLast] at isOther
      rw [← Option.some.inj isOther]
      exact different
    exact samplesOf_prefix_of_sound sound shown apart readable

/-- The sample of the small archive comes out when the file of the other has shown up. -/
theorem first_small_sample_delivered :
    ∃ before next rest,
      entries smallBody = before ++ next :: rest ∧
      (samplesOf before).length = 1 ∧
      samplesOf before <+: delivered (walk "data.tar" smallBody) := by
  obtain ⟨segmentation, picture, label⟩ := ofPath?_smallSamples
  have files : filesRead (smallEntries.take 3) =
      [(⟨"shard.0/a", "seg.png"⟩, ⟨#[1, 2]⟩), (⟨"shard.0/a", "jpeg"⟩, ⟨#[3]⟩)] := by
    simp [smallEntries, filesRead, Entry.readFile?, Entry.fault?, memberFile, segmentation, picture,
      List.filterMap_cons]
  have isLast : (filesRead (smallEntries.take 3)).getLast? =
      some (⟨"shard.0/a", "jpeg"⟩, ⟨#[3]⟩) := by
    rw [files]
    rfl
  have split : entries smallBody = smallEntries.take 3 ++ memberFile "b" ("cls", ⟨#[4]⟩) :: [] :=
    entries_smallBody
  have shown : (memberFile "b" ("cls", ⟨#[4]⟩)).member? = some ⟨"b", "cls"⟩ := label
  refine ⟨smallEntries.take 3, memberFile "b" ("cls", ⟨#[4]⟩), [], split, ?_, ?_⟩
  · rw [samplesOf, files]
    rfl
  · exact (complete_samples_delivered_iff "data.tar" smallBody split rfl isLast shown
      (by decide)).1.mpr rfl

/-- The header of a file, by its path, the octal digits of its size and those of its sum. -/
def fileHeader (path size sum : String) : Header := headerOf path size sum 0x30

/-- The header of a file with one byte. -/
def labelHeader : Header := fileHeader "a.cls" "00000000001" "006617"

/-- The header of a file with ten bytes. -/
def pictureHeader : Header := fileHeader "b.jpeg" "00000000012" "006766"

/-- An archive that cannot be read on from where the data of its second file should be. -/
def lateBody : Body where
  bytes := ⟨(labelHeader.bytes ++ 0x31 :: List.replicate 511 0 ++ pictureHeader.bytes).toArray⟩
  breaks := true

/-- The first file, which can be read. -/
def labelFile : Entry := .file labelHeader.path (slice lateBody blockSize 1)

/-- The second file, which cannot. -/
def pictureFile : Entry := .brokenFile pictureHeader.path

theorem entries_lateBody : entries lateBody = [labelFile] ++ pictureFile :: [.broken] := by
  have size : lateBody.bytes.size = 1536 := by decide +kernel
  have first : headerAt lateBody 0 = .header labelHeader :=
    headerAt_of_block (by decide +kernel) (by decide +kernel) (by decide +kernel)
      (by decide +kernel)
  have second : headerAt lateBody 1024 = .header pictureHeader :=
    headerAt_of_block (by decide +kernel) (by decide +kernel) (by decide +kernel)
      (by decide +kernel)
  have third : headerAt lateBody 2048 = .broken := by
    simp only [headerAt, size]
    rfl
  have label : dataAt? lateBody (0 + blockSize) 1 = some (slice lateBody blockSize 1) := by
    have whole : (slice lateBody (0 + blockSize) 1).size = 1 := by
      rw [size_slice, size]
      rfl
    simp only [dataAt?, whole, Nat.lt_irrefl, false_and, if_false]
    rfl
  have picture : dataAt? lateBody (1024 + blockSize) 10 = none := by
    have missing : (slice lateBody (1024 + blockSize) 10).size = 0 := by
      rw [size_slice, size]
      rfl
    simp only [dataAt?, missing]
    rfl
  have blocks : lateBody.bytes.size / blockSize + 1 = 1 + 1 + 1 + 1 := by
    rw [size]
    rfl
  have afterLabel : extent? labelHeader .nothing (0 + blockSize) = some (1, 1024) := by
    decide +kernel
  have afterPicture : extent? pictureHeader .nothing (1024 + blockSize) = some (10, 2048) := by
    decide +kernel
  rw [entries, blocks, entriesFrom_of_file first (by decide +kernel) afterLabel, label,
    entriesFrom_of_file second (by decide +kernel) afterPicture, picture, entriesFrom, third]
  rfl

/-- The first sample is complete when the second file shows up, and does not come out: there is
nothing but the failure to read that file. -/
theorem complete_sample_lost :
    ∃ before next rest member last,
      entries lateBody = before ++ next :: rest ∧
      firstFault? before = none ∧
      (filesRead before).getLast? = some last ∧
      next.member? = some member ∧
      last.1.key ≠ member.key ∧
      delivered (walk "mem://v.tar" lateBody) =
        [.error (walkFailure "mem://v.tar" (.readingMember pictureHeader.path))] ∧
      ¬samplesOf before <+: delivered (walk "mem://v.tar" lateBody) := by
  have label : Member.ofPath? labelHeader.path = some ⟨"a", "cls"⟩ := by decide +kernel
  have picture : pictureFile.member? = some ⟨"b", "jpeg"⟩ := by decide +kernel
  have isFile : labelFile.readFile? = some (⟨"a", "cls"⟩, slice lateBody blockSize 1) :=
    congrArg (Option.map (·, slice lateBody blockSize 1)) label
  have faulty : pictureFile.fault? = some (.readingMember pictureHeader.path) :=
    congrArg (Option.map fun _ => _) picture
  have files : filesRead [labelFile] = [(⟨"a", "cls"⟩, slice lateBody blockSize 1)] :=
    (read_cons_of_file labelFile [] rfl isFile).1
  have sound : firstFault? [labelFile] = none := rfl
  have isLast : (filesRead [labelFile]).getLast? =
      some (⟨"a", "cls"⟩, slice lateBody blockSize 1) := by
    rw [files]
    rfl
  have single : (samplesOf [labelFile]).dropLast = [] := by
    rw [samplesOf, files]
    rfl
  refine ⟨[labelFile], pictureFile, [.broken], ⟨"b", "jpeg"⟩, _, entries_lateBody, sound, isLast,
    picture, by decide, ?_, ?_⟩
  · rw [walk, entries_lateBody, delivered_of_fault sound faulty, single]
    rfl
  · rw [walk, entries_lateBody]
    exact not_samplesOf_prefix_of_fault sound isLast faulty

end Archive
end Holdout
