import Mathlib.Data.List.Chain
import Holdout.Archive.Samples
import Holdout.Proofs.Archive.Entry
import Holdout.Proofs.Archive.MemberPath
import Holdout.Proofs.Pulling

/-!
# Samples that come back from an archive

An archive stores samples if it holds the files of one after those of the other, each under
the path of its member; what is no file may stand anywhere between. Walking over such an
archive makes the samples again, since files are told apart by the keys of neighbours only.
-/

namespace Holdout
namespace Archive

/-- A sample that an archive can store. -/
structure Storable (sample : Sample) : Prop where
  key : IsKey sample.key
  hasMembers : sample.members.entries ≠ []
  slashFree : ∀ member ∈ sample.members.entries, '/' ∉ member.1.toList
  lowercase : ∀ member ∈ sample.members.entries, Text.lowercase member.1 = member.1

/-- The file of a member. -/
def memberFile (key : String) (member : String × ByteArray) : Entry :=
  .file (memberPath key member.1) member.2

/-- Files that are those of the samples, one sample after the other; the files of a sample may
come in any order. -/
inductive Holds : List Sample → List Entry → Prop
  | nil : Holds [] []
  | cons {sample : Sample} {samples : List Sample} {rest : List Entry}
      (members : List (String × ByteArray)) :
      members.Perm sample.members.entries → Holds samples rest →
        Holds (sample :: samples) (members.map (memberFile sample.key) ++ rest)

/-- An entry that is no file. -/
def Entry.isOther : Entry → Bool
  | .other => true
  | _ => false

/-- The entries hold the samples and nothing else but what is no file. -/
def Stores (samples : List Sample) (entries : List Entry) : Prop :=
  Holds samples (entries.filter fun entry => !entry.isOther)

/-- A sample with further members. -/
def absorb (sample : Sample) (members : List (String × ByteArray)) : Sample :=
  members.foldl (fun sample (name, data) => sample.withMember name data) sample

theorem absorb_key (members : List (String × ByteArray)) (sample : Sample) :
    (absorb sample members).key = sample.key := by
  induction members generalizing sample with
  | nil => rfl
  | cons member others inductionHypothesis =>
    exact inductionHypothesis (sample.withMember member.1 member.2)

/-- Members of new names in lower case stand beside those that were there. -/
theorem absorb_entries_perm
    {members : List (String × ByteArray)}
    (lowercase : ∀ member ∈ members, Text.lowercase member.1 = member.1)
    {sample : Sample}
    (distinct : (sample.members.entries ++ members).Pairwise fun one other => one.1 ≠ other.1) :
    (absorb sample members).members.entries.Perm (sample.members.entries ++ members) := by
  induction members generalizing sample with
  | nil =>
    rw [List.append_nil]
    exact List.Perm.refl _
  | cons member others inductionHypothesis =>
    have small : Text.lowercase member.1 = member.1 := lowercase member List.mem_cons_self
    have fresh : ∀ entry ∈ sample.members.entries, entry.1 ≠ member.1 := by
      intro entry among
      exact (List.pairwise_append.mp distinct).2.2 entry among member List.mem_cons_self
    have placed : (sample.withMember member.1 member.2).members.entries.Perm
        (member :: sample.members.entries) := by
      rw [Sample.withMember, small]
      exact NameMap.insertEntry_perm member.2 fresh
    have reordered : ((sample.withMember member.1 member.2).members.entries ++ others).Perm
        (sample.members.entries ++ member :: others) :=
      (placed.append_right others).trans List.perm_middle.symm
    have absorbed := inductionHypothesis
      (fun other among => lowercase other (List.mem_cons_of_mem _ among))
      (reordered.symm.pairwise distinct fun different => different.symm)
    exact absorbed.trans reordered

/-- The members of a sample make the sample, in whatever order they come. -/
theorem absorb_new
    {sample : Sample}
    (lowercase : ∀ member ∈ sample.members.entries, Text.lowercase member.1 = member.1)
    {members : List (String × ByteArray)}
    (same : members.Perm sample.members.entries) :
    absorb (Sample.new sample.key) members = sample := by
  have distinct : members.Pairwise fun one other => one.1 ≠ other.1 := by
    refine same.symm.pairwise ?_ fun different => different.symm
    apply sample.members.increasing.imp
    intro earlier later less equal
    exact absurd (equal ▸ less) (String.lt_irrefl _)
  have entries : (absorb (Sample.new sample.key) members).members.entries.Perm members :=
    absorb_entries_perm (fun member among => lowercase member (same.subset among)) distinct
  have equal : (absorb (Sample.new sample.key) members).members = sample.members :=
    NameMap.eq_of_entries_perm (entries.trans same)
  have key : (absorb (Sample.new sample.key) members).key = sample.key := absorb_key members _
  calc
    absorb (Sample.new sample.key) members =
        ⟨(absorb (Sample.new sample.key) members).key,
          (absorb (Sample.new sample.key) members).members⟩ := rfl
    _ = ⟨sample.key, sample.members⟩ := by rw [equal, key]

/-- The walk does not notice what is no file. -/
theorem walkFrom_filter (location : String) (current : Option Sample) (entries : List Entry) :
    walkFrom location current (entries.filter fun entry => !entry.isOther) =
      walkFrom location current entries := by
  induction entries generalizing current with
  | nil => rfl
  | cons entry rest inductionHypothesis =>
    cases entry with
    | other => exact inductionHypothesis current
    | broken => rfl
    | brokenFile path =>
      rw [List.filter_cons_of_pos rfl, walkFrom, walkFrom]
      simp only [inductionHypothesis]
    | file path data =>
      rw [List.filter_cons_of_pos rfl]
      unfold walkFrom
      simp only [inductionHypothesis]

/-- The step that hands out a sample. -/
def WalkStep.ofSample (sample : Sample) : WalkStep := .delivered (.ok (.sample sample))

/-- Further members of the sample that is being collected are absorbed. -/
theorem walkFrom_members
    (sample : Sample)
    (isKey : IsKey sample.key)
    {members : List (String × ByteArray)}
    (slashFree : ∀ member ∈ members, '/' ∉ member.1.toList)
    (location : String)
    (rest : List Entry) :
    walkFrom location (some sample) (members.map (memberFile sample.key) ++ rest) =
      walkFrom location (some (absorb sample members)) rest := by
  induction members generalizing sample with
  | nil => rfl
  | cons member others inductionHypothesis =>
    have read : Member.ofPath? (memberPath sample.key member.1) = some ⟨sample.key, member.1⟩ :=
      ofPath?_memberPath isKey (slashFree member List.mem_cons_self)
    simp only [List.map_cons, List.cons_append, memberFile, walkFrom, read, if_true]
    exact inductionHypothesis (sample.withMember member.1 member.2) isKey
      (fun other among => slashFree other (List.mem_cons_of_mem _ among))

/-- The first member of another sample ends the one that is being collected. -/
theorem walkFrom_first
    {key : String}
    (isKey : IsKey key)
    {member : String × ByteArray}
    (slashFree : '/' ∉ member.1.toList)
    {current : Option Sample}
    (different : ∀ sample ∈ current, sample.key ≠ key)
    (location : String)
    (rest : List Entry) :
    walkFrom location current (memberFile key member :: rest) =
      current.toList.map WalkStep.ofSample ++
        walkFrom location (some ((Sample.new key).withMember member.1 member.2)) rest := by
  have read : Member.ofPath? (memberPath key member.1) = some ⟨key, member.1⟩ :=
    ofPath?_memberPath isKey slashFree
  cases current with
  | none =>
    simp only [memberFile, walkFrom, read]
    rfl
  | some sample =>
    simp only [memberFile, walkFrom, read, if_neg (different sample rfl)]
    rfl

/-- The samples that files hold come out one after the other, behind the one that was being
collected before. -/
theorem walkFrom_of_holds
    {samples : List Sample}
    {files : List Entry}
    (holds : Holds samples files)
    (storable : ∀ sample ∈ samples, Storable sample)
    (current : Option Sample)
    (distinct : (current.toList ++ samples).IsChain fun one next => one.key ≠ next.key)
    (location : String) :
    walkFrom location current files = (current.toList ++ samples).map WalkStep.ofSample := by
  induction holds generalizing current with
  | nil =>
    rw [List.append_nil]
    rfl
  | @cons sample samples rest members same _ inductionHypothesis =>
    have stored : Storable sample := storable sample List.mem_cons_self
    have different : ∀ before ∈ current, before.key ≠ sample.key := by
      intro before isCurrent
      rw [isCurrent] at distinct
      exact (List.isChain_cons_cons.mp distinct).1
    have chained : (sample :: samples).IsChain fun one next => one.key ≠ next.key :=
      distinct.right_of_append
    have slashFree : ∀ member ∈ members, '/' ∉ member.1.toList :=
      fun member among => stored.slashFree member (same.subset among)
    have made : absorb (Sample.new sample.key) members = sample :=
      absorb_new stored.lowercase same
    have nonempty : members ≠ [] := by
      intro empty
      rw [empty] at same
      exact stored.hasMembers same.nil_eq.symm
    obtain ⟨first, others, split⟩ := List.exists_cons_of_ne_nil nonempty
    rw [split] at slashFree made ⊢
    have begun := walkFrom_members
      ((Sample.new sample.key).withMember first.1 first.2) stored.key
      (fun member among => slashFree member (List.mem_cons_of_mem _ among)) location rest
    have collected := inductionHypothesis
      (fun other among => storable other (List.mem_cons_of_mem _ among)) (some sample) chained
    rw [List.map_cons, List.cons_append,
      walkFrom_first stored.key (slashFree first List.mem_cons_self) different, List.map_append]
    congr 1
    calc
      walkFrom location (some ((Sample.new sample.key).withMember first.1 first.2))
          (others.map (memberFile sample.key) ++ rest) =
          walkFrom location (some (absorb (Sample.new sample.key) (first :: others))) rest := begun
      _ = walkFrom location (some sample) rest := by rw [made]
      _ = (sample :: samples).map WalkStep.ofSample := collected

/-- A walk hands out what it delivers, one result after the other. -/
theorem pullStep_handsOut : HandsOut pullStep (fun _ => True) delivered := by
  intro steps _
  induction steps with
  | nil => exact ⟨rfl, rfl, trivial⟩
  | cons step rest inductionHypothesis =>
    cases step with
    | delivered result => exact ⟨rfl, rfl, trivial⟩
    | skipped path => exact inductionHypothesis

/-- Reading an archive gives the samples that are stored in it, each once and in order, and then
nothing more. -/
theorem walk_delivers_stored_samples
    (location : String)
    (body : Body)
    (samples : List Sample)
    (storable : ∀ sample ∈ samples, Storable sample)
    (distinct : samples.IsChain fun one next => one.key ≠ next.key)
    (stored : Stores samples (entries body))
    (count : Nat) :
    (pullTimes pullStep count (walk location body)).value.1 =
      (List.range count).map fun call => samples[call]?.map fun sample => .ok (.sample sample) := by
  have steps : walk location body = samples.map WalkStep.ofSample := by
    rw [walk, ← walkFrom_filter]
    exact walkFrom_of_holds stored storable none distinct location
  have results : delivered (samples.map WalkStep.ofSample) =
      samples.map fun sample => .ok (.sample sample) := by
    rw [delivered, List.filterMap_map, ← List.filterMap_eq_map]
    rfl
  rw [pullStep_handsOut.pullTimes_eq count trivial, steps, results]
  simp only [List.getElem?_map]

/-- A header block, by the path, the octal digits of the size and of the sum, and the letter. -/
def headerOf (path size sum : String) (letter : UInt8) : Header where
  bytes :=
    Text.bytes path ++ List.replicate (100 - (Text.bytes path).length) 0 ++
      Text.bytes "0000644" ++ 0 :: Text.bytes "0000000" ++ 0 :: Text.bytes "0000000" ++ 0 ::
      Text.bytes size ++ 0 :: Text.bytes "00000000000" ++ 0 :: Text.bytes sum ++
      0 :: 0x20 :: letter :: List.replicate 100 0 ++ Text.bytes "ustar  " ++ List.replicate 248 0

/-- The samples of a small archive. -/
def smallSamples : List Sample :=
  [.ofMembers "shard.0/a" [("jpeg", ⟨#[3]⟩), ("seg.png", ⟨#[1, 2]⟩)],
    .ofMembers "b" [("cls", ⟨#[4]⟩)]]

/-- A directory and three files, of which the first two belong to one sample. -/
def smallStored : List Stored :=
  [⟨headerOf "shard.0/" "00000000000" "007141" 0x35, []⟩,
    ⟨headerOf "shard.0/a.seg.png" "00000000002" "010637" 0x30, [1, 2]⟩,
    ⟨headerOf "shard.0/a.jpeg" "00000000001" "010222" 0x30, [3]⟩,
    ⟨headerOf "b.cls" "00000000001" "006620" 0x30, [4]⟩]

/-- The small archive. -/
def smallBody : Body := ofStored smallStored

/-- What is read in the small archive. -/
def smallEntries : List Entry :=
  [.other, memberFile "shard.0/a" ("seg.png", ⟨#[1, 2]⟩),
    memberFile "shard.0/a" ("jpeg", ⟨#[3]⟩), memberFile "b" ("cls", ⟨#[4]⟩)]

theorem smallSamples_storable : ∀ sample ∈ smallSamples, Storable sample := by
  intro sample member
  simp only [smallSamples, List.mem_cons, List.not_mem_nil, or_false] at member
  rcases member with same | same
  · rw [same]
    refine ⟨⟨["shard.0"], "a", by decide, by decide, rfl⟩, nofun, ?_, ?_⟩
    all_goals decide +kernel
  · rw [same]
    refine ⟨⟨[], "b", by decide, by decide, rfl⟩, nofun, ?_, ?_⟩
    all_goals decide +kernel

/-- The paths of the small archive are read as they were made. -/
theorem ofPath?_smallSamples :
    Member.ofPath? (memberPath "shard.0/a" "seg.png") = some ⟨"shard.0/a", "seg.png"⟩ ∧
      Member.ofPath? (memberPath "shard.0/a" "jpeg") = some ⟨"shard.0/a", "jpeg"⟩ ∧
      Member.ofPath? (memberPath "b" "cls") = some ⟨"b", "cls"⟩ := by
  have picture : IsKey "shard.0/a" := (smallSamples_storable _ List.mem_cons_self).key
  have label : IsKey "b" :=
    (smallSamples_storable _ (List.mem_cons_of_mem _ List.mem_cons_self)).key
  exact ⟨ofPath?_memberPath picture (by decide), ofPath?_memberPath picture (by decide),
    ofPath?_memberPath label (by decide)⟩

/-- The header of a file at the path of a member makes the file of that member. -/
theorem entry_eq_memberFile
    {stored : Stored}
    (isFile : stored.header.isFile = true)
    (key name : String)
    (path : stored.header.path = memberPath key name) :
    stored.entry = memberFile key (name, ⟨stored.data.toArray⟩) := by
  rw [Stored.entry, if_pos isFile, path]
  rfl

theorem entries_smallBody : entries smallBody = smallEntries := by
  have folder : (⟨headerOf "shard.0/" "00000000000" "007141" 0x35, []⟩ : Stored).entry = .other := by
    rw [Stored.entry, if_neg (by decide +kernel)]
  rw [smallBody, entries_ofStored (by decide +kernel) (by decide +kernel), smallStored, List.map_cons,
    folder, List.map_cons,
    entry_eq_memberFile (by decide +kernel) "shard.0/a" "seg.png" (by decide +kernel),
    List.map_cons,
    entry_eq_memberFile (by decide +kernel) "shard.0/a" "jpeg" (by decide +kernel),
    List.map_cons, entry_eq_memberFile (by decide +kernel) "b" "cls" (by decide +kernel),
    List.map_nil]
  rfl

/-- The archive stores the samples, one of them with its members in another order. -/
theorem smallSamples_stored : Stores smallSamples (entries smallBody) := by
  have files : smallEntries.filter (fun entry => !entry.isOther) =
      [("seg.png", (⟨#[1, 2]⟩ : ByteArray)), ("jpeg", ⟨#[3]⟩)].map (memberFile "shard.0/a") ++
        ([("cls", (⟨#[4]⟩ : ByteArray))].map (memberFile "b") ++ []) := rfl
  rw [Stores, entries_smallBody, files]
  exact .cons _ (List.Perm.swap _ _ _) (.cons _ (List.Perm.refl _) .nil)

/-- The small archive comes back as its two samples and ends. -/
theorem walk_delivers_small_samples :
    (∀ sample ∈ smallSamples, Storable sample) ∧
      (smallSamples.IsChain fun one next => one.key ≠ next.key) ∧
      Stores smallSamples (entries smallBody) ∧
      (pullTimes pullStep 3 (walk "data.tar" smallBody)).value.1 =
        (List.range 3).map fun call =>
          smallSamples[call]?.map fun sample => .ok (.sample sample) := by
  have distinct : smallSamples.IsChain fun one next => one.key ≠ next.key := by decide
  exact ⟨smallSamples_storable, distinct, smallSamples_stored,
    walk_delivers_stored_samples "data.tar" _ _ smallSamples_storable distinct
      smallSamples_stored 3⟩

end Archive
end Holdout
