import Mathlib.Data.List.SplitBy
import Holdout.Proofs.Archive.Files
import Holdout.Proofs.NameMap

/-!
# Runs of files in an archive

A walk over an archive reads the files before the first fault, leaving out what is no file or
has no readable name. The files that follow each other with the same key are a run, and a walk
hands out the sample of each run. The run that is under way at a fault is lost.
-/

namespace Holdout
namespace Archive

/-- Two files belong to samples with the same key. -/
def sameKey (one next : ReadFile) : Bool := one.1.key = next.1.key

/-- The longest runs of files with the same key. -/
def runs (files : List ReadFile) : List (List ReadFile) := files.splitBy sameKey

/-- The sample that the files of a run make, one after the other. -/
def sampleOfRun (run : List ReadFile) : Sample :=
  .ofMembers ((run.map fun file => file.1.key).headD "")
    (run.map fun file => (file.1.extension, file.2))

/-- The samples of all runs; or, where something goes wrong, the samples of all runs but the last
and then the failure. -/
def runResults (location : String) (files : List ReadFile) : Option Activity → List ItemResult
  | none => (runs files).map fun run => .ok (.sample (sampleOfRun run))
  | some activity =>
    ((runs files).dropLast.map fun run => .ok (.sample (sampleOfRun run))) ++
      [.error (walkFailure location activity)]

/-- All files of the run have the key of its sample. -/
def OneKey (run : List ReadFile) : Prop := ∀ file ∈ run, file.1.key = (sampleOfRun run).key

/-- The sample that is being collected after the files of a run. -/
def underWay (run : List ReadFile) : Option Sample := run.head?.map fun _ => sampleOfRun run

theorem key_sampleOfRun (first : ReadFile) (others : List ReadFile) :
    (sampleOfRun (first :: others)).key = first.1.key := by
  rw [sampleOfRun, List.map_cons, List.headD_cons, Sample.ofMembers]
  exact absorb_key _ _

/-- A further file of a run is one more member of its sample. -/
theorem sampleOfRun_snoc (first last : ReadFile) (others : List ReadFile) :
    sampleOfRun (first :: others ++ [last]) =
      (sampleOfRun (first :: others)).withMember last.1.extension last.2 := by
  simp [sampleOfRun, Sample.ofMembers]

theorem oneKey_singleton (file : ReadFile) : OneKey [file] := by
  intro other among
  rw [List.mem_singleton.mp among]
  exact (key_sampleOfRun file []).symm

theorem OneKey.snoc
    {first : ReadFile}
    {others : List ReadFile}
    (oneKey : OneKey (first :: others))
    (last : ReadFile)
    (same : (sampleOfRun (first :: others)).key = last.1.key) :
    OneKey (first :: others ++ [last]) := by
  intro file among
  rw [sampleOfRun_snoc]
  rcases List.mem_append.mp among with inside | isLast
  · exact oneKey file inside
  · rw [List.mem_singleton.mp isLast]
    exact same.symm

/-- Files with one key are a single run. -/
theorem OneKey.runs_eq
    {run : List ReadFile}
    (oneKey : OneKey run)
    (nonempty : run ≠ []) :
    runs run = [run] := by
  apply List.splitBy_of_isChain nonempty
  apply List.Pairwise.isChain
  apply List.pairwise_of_forall_mem_list
  intro one among next amongToo
  rw [sameKey, decide_eq_true_eq, oneKey one among, oneKey next amongToo]

/-- A file with another key begins a new run, behind those of the files before it. -/
theorem runs_append_cons
    {files : List ReadFile}
    {next : ReadFile}
    (apart : ∀ last ∈ files.getLast?, last.1.key ≠ next.1.key)
    (others : List ReadFile) :
    runs (files ++ next :: others) = runs files ++ runs (next :: others) := by
  apply List.splitBy_append_cons
  intro last isLast
  exact decide_eq_false (apart last isLast)

theorem OneKey.runs_append
    {run : List ReadFile}
    (oneKey : OneKey run)
    (nonempty : run ≠ [])
    (file : ReadFile)
    (different : (sampleOfRun run).key ≠ file.1.key)
    (files : List ReadFile) :
    runs (run ++ file :: files) = [run] ++ runs (file :: files) := by
  rw [← oneKey.runs_eq nonempty]
  apply runs_append_cons
  intro last isLast
  rw [oneKey last (List.mem_of_getLast? isLast)]
  exact different

/-- The samples of finished runs come out before the results of the runs behind them. -/
theorem runResults_append
    {files others : List ReadFile}
    {finished : List (List ReadFile)}
    (nonempty : others ≠ [])
    (cut : runs files = finished ++ runs others)
    (location : String)
    (fault : Option Activity) :
    runResults location files fault =
      (finished.map fun run => .ok (.sample (sampleOfRun run))) ++
        runResults location others fault := by
  have more : runs others ≠ [] := List.splitBy_ne_nil.mpr nonempty
  cases fault with
  | none => rw [runResults, cut, List.map_append, runResults]
  | some activity =>
    rw [runResults, cut, List.dropLast_append_of_ne_nil more, List.map_append, runResults,
      List.append_assoc]

/-- What a walk delivers while the files of a run are being collected. -/
theorem delivered_walkFrom
    (location : String)
    (entries : List Entry)
    {run : List ReadFile}
    (oneKey : OneKey run) :
    delivered (walkFrom location (underWay run) entries) =
      runResults location (run ++ filesRead entries) (firstFault? entries) := by
  -- Only the last run can still grow, so it is all that has to be remembered.
  induction entries generalizing run with
  | nil =>
    cases run with
    | nil => rfl
    | cons first others =>
      have single : runs (first :: others) = [first :: others] :=
        oneKey.runs_eq (List.cons_ne_nil _ _)
      have files : first :: others ++ filesRead [] = first :: others := List.append_nil _
      rw [files, firstFault?, List.findSome?_nil, runResults, single]
      rfl
  | cons entry rest inductionHypothesis =>
    have lost : (runs run).dropLast = [] := by
      cases run with
      | nil => rfl
      | cons first others =>
        rw [oneKey.runs_eq (List.cons_ne_nil _ _)]
        rfl
    cases entry with
    | other =>
      obtain ⟨files, fault⟩ := read_cons_of_unread .other rest rfl rfl
      rw [files, fault]
      exact inductionHypothesis oneKey
    | broken =>
      obtain ⟨files, fault⟩ := read_cons_of_fault .broken rest rfl
      rw [files, fault, List.append_nil, runResults, lost]
      rfl
    | brokenFile path =>
      cases named : Member.ofPath? path with
      | none =>
        obtain ⟨files, fault⟩ := read_cons_of_unread (.brokenFile path) rest
          (by simp [Entry.fault?, named]) rfl
        rw [files, fault]
        simp only [walkFrom, named]
        exact inductionHypothesis oneKey
      | some member =>
        have isFault : (Entry.brokenFile path).fault? = some (.readingMember path) := by
          simp [Entry.fault?, named]
        obtain ⟨files, fault⟩ := read_cons_of_fault _ rest isFault
        rw [files, fault, List.append_nil, runResults, lost]
        simp only [walkFrom, named]
        rfl
    | file path data =>
      cases named : Member.ofPath? path with
      | none =>
        obtain ⟨files, fault⟩ := read_cons_of_unread (.file path data) rest rfl
          (by simp [Entry.readFile?, named])
        rw [files, fault]
        simp only [walkFrom, named]
        exact inductionHypothesis oneKey
      | some member =>
        have isFile : (Entry.file path data).readFile? = some (member, data) := by
          simp [Entry.readFile?, named]
        obtain ⟨files, fault⟩ := read_cons_of_file _ rest rfl isFile
        rw [files, fault]
        have begun := inductionHypothesis (oneKey_singleton (member, data))
        cases run with
        | nil =>
          simp only [underWay, List.head?_nil, Option.map_none, walkFrom, named]
          exact begun
        | cons first others =>
          simp only [underWay, List.head?_cons, Option.map_some, walkFrom, named]
          by_cases same : (sampleOfRun (first :: others)).key = member.key
          · rw [if_pos same, List.append_cons]
            have grown := inductionHypothesis (oneKey.snoc (member, data) same)
            rw [← grown, underWay, sampleOfRun_snoc]
            rfl
          · rw [if_neg same, runResults_append (List.cons_ne_nil _ _)
              (oneKey.runs_append (List.cons_ne_nil _ _) (member, data) same _)]
            exact congrArg _ begun

/-- What a walk delivers, by the runs of the files that are read. -/
theorem delivered_walkFrom_none (location : String) (entries : List Entry) :
    delivered (walkFrom location none entries) =
      runResults location (filesRead entries) (firstFault? entries) := by
  have oneKey : OneKey [] := by
    intro file among
    cases among
  exact delivered_walkFrom location entries oneKey

/-- A run has at least one file, and all its files have the key of its sample. -/
theorem mem_runs
    {files run : List ReadFile}
    (among : run ∈ runs files) :
    run ≠ [] ∧ OneKey run := by
  have nonempty : run ≠ [] := List.ne_nil_of_mem_splitBy among
  refine ⟨nonempty, ?_⟩
  obtain ⟨first, others, same⟩ := List.exists_cons_of_ne_nil nonempty
  have chained : run.IsChain fun one next => one.1.key = next.1.key :=
    (List.isChain_of_mem_splitBy among).imp fun _ _ related => of_decide_eq_true related
  have transitive : Trans (fun one next : ReadFile => one.1.key = next.1.key)
      (fun one next : ReadFile => one.1.key = next.1.key)
      (fun one next : ReadFile => one.1.key = next.1.key) := ⟨Eq.trans⟩
  have related := chained.pairwise
  rw [same, List.pairwise_cons] at related
  intro file inRun
  rw [same] at inRun ⊢
  rw [key_sampleOfRun]
  rcases List.mem_cons.mp inRun with isFirst | behind
  · rw [isFirst]
  · exact (related.1 file behind).symm

/-- Runs that follow each other have samples with different keys. -/
theorem runs_isChain (files : List ReadFile) :
    ((runs files).map sampleOfRun).IsChain fun one next => one.key ≠ next.key := by
  apply List.isChain_map_of_isChain sampleOfRun (fun _ _ different => different)
  apply List.IsChain.imp_of_mem_imp ?_ (List.isChain_getLast_head_splitBy sameKey files)
  intro one next among amongToo ⟨hasLast, hasHead, apart⟩ equal
  have last : (one.getLast hasLast).1.key = (sampleOfRun one).key :=
    (mem_runs among).2 _ (List.getLast_mem hasLast)
  have head : (next.head hasHead).1.key = (sampleOfRun next).key :=
    (mem_runs amongToo).2 _ (List.head_mem hasHead)
  rw [sameKey, last, head, equal, decide_eq_true rfl] at apart
  cases apart

/-- The members that a sample is made of make its map. -/
theorem members_ofMembers (key : String) (members : List (String × ByteArray)) :
    (Sample.ofMembers key members).members =
      NameMap.ofList (members.map fun member => (Text.lowercase member.1, member.2)) := by
  induction members using List.reverseRecOn with
  | nil => rfl
  | append_singleton members last inductionHypothesis =>
    rw [List.map_append, List.map_singleton, NameMap.ofList_concat, ← inductionHypothesis,
      Sample.ofMembers, List.foldl_append]
    rfl

/-- The files of a run make the map of its sample, by their names. -/
theorem members_sampleOfRun (run : List ReadFile) :
    (sampleOfRun run).members = NameMap.ofList (run.map fun file => (file.1.name, file.2)) := by
  rw [sampleOfRun, members_ofMembers, List.map_map]
  rfl

/-- The data of the last file of a run that has the name. -/
def IsLastNamed (run : List ReadFile) (name : String) (data : ByteArray) : Prop :=
  ∃ before file after, run = before ++ file :: after ∧
    Text.lowercase file.1.extension = name ∧ file.2 = data ∧
    ∀ later ∈ after, Text.lowercase later.1.extension ≠ name

/-- The sample of a run holds the data of the last file with a name, and nothing else. -/
theorem find?_sampleOfRun_iff {run : List ReadFile} {name : String} {data : ByteArray} :
    (sampleOfRun run).members.find? name = some data ↔ IsLastNamed run name data := by
  rw [members_sampleOfRun, NameMap.find?_ofList_eq_some_iff]
  constructor
  · rintro ⟨before, after, split, absent⟩
    obtain ⟨front, behind, rfl, -, isRest⟩ := List.map_eq_append_iff.mp split
    obtain ⟨file, rest, rfl, isFile, rfl⟩ := List.map_eq_cons_iff.mp isRest
    rw [Prod.mk.injEq] at isFile
    refine ⟨front, file, rest, rfl, isFile.1, isFile.2, fun later among same => absent ?_⟩
    rw [List.map_map]
    exact List.mem_map.mpr ⟨later, among, same⟩
  · rintro ⟨before, file, after, rfl, rfl, rfl, others⟩
    refine ⟨before.map fun file => (file.1.name, file.2),
      after.map fun file => (file.1.name, file.2), ?_, ?_⟩
    · rw [List.map_append, List.map_cons]
      rfl
    · rw [List.map_map]
      intro among
      obtain ⟨later, isLater, same⟩ := List.mem_map.mp among
      exact others later isLater same

theorem sampleOfRun_eq_foldl {run : List ReadFile} (nonempty : run ≠ []) :
    sampleOfRun run =
      run.foldl (fun sample file => sample.withMember file.1.extension file.2)
        (.new (sampleOfRun run).key) := by
  obtain ⟨first, others, same⟩ := List.exists_cons_of_ne_nil nonempty
  rw [same, key_sampleOfRun, sampleOfRun, Sample.ofMembers, List.foldl_map]
  rfl

/-- Pulling from a walk over any entries brings the samples of the runs among the files that are
read, in order, and then nothing more. If something goes wrong on the way, the failure comes in
the place of the last run, and says that the archive was being streamed.

The runs are the files that are read, cut where the key changes: no run is empty, its files have
one key, and the next run has another. The sample of a run has that key and the members of the
files, of which a later one replaces an earlier one with the same name: under each name it holds the
data of the last file of the run whose extension is the name in lower case. -/
theorem walkFrom_delivers_runs (location : String) (entries : List Entry) (count : Nat) :
    (∀ files fault, Reads entries files fault ↔
      files = filesRead entries ∧ fault = firstFault? entries) ∧
    (pullTimes pullStep count (walkFrom location none entries)).value.1 =
      ((List.range count).map fun call =>
        (runResults location (filesRead entries) (firstFault? entries))[call]?) ∧
    (∀ activity, (walkFailure location activity).message = "while streaming " ++ location) ∧
    (runs (filesRead entries)).flatten = filesRead entries ∧
    (∀ run ∈ runs (filesRead entries),
      run ≠ [] ∧
      (∀ file ∈ run, file.1.key = (sampleOfRun run).key) ∧
      sampleOfRun run =
        run.foldl (fun sample file => sample.withMember file.1.extension file.2)
          (.new (sampleOfRun run).key) ∧
      ∀ name data,
        (sampleOfRun run).members.find? name = some data ↔ IsLastNamed run name data) ∧
    ((runs (filesRead entries)).map sampleOfRun).IsChain fun one next => one.key ≠ next.key := by
  refine ⟨fun _ _ => reads_iff, ?_, fun _ => rfl, List.flatten_splitBy _ _, ?_, runs_isChain _⟩
  · rw [pullStep_handsOut.pullTimes_eq count trivial, delivered_walkFrom_none location entries]
  · intro run among
    obtain ⟨nonempty, oneKey⟩ := mem_runs among
    exact ⟨nonempty, oneKey, sampleOfRun_eq_foldl nonempty, fun _ _ => find?_sampleOfRun_iff⟩

/-- A picture and its label, with a folder and an unreadable name between them; the label of another
picture, and that picture, which cannot be read. -/
def mixedEntries : List Entry :=
  [.file (Text.bytes "shard/a.JPEG") ⟨#[1, 2]⟩, .other, .file [0xFF] ⟨#[9]⟩,
    .file (Text.bytes "shard/a.cls") ⟨#[3]⟩, .file (Text.bytes "b.cls") ⟨#[4]⟩,
    .brokenFile (Text.bytes "b.jpeg")]

/-- The files that are read among the entries. -/
def mixedFiles : List ReadFile :=
  [(⟨"shard/a", "JPEG"⟩, ⟨#[1, 2]⟩), (⟨"shard/a", "cls"⟩, ⟨#[3]⟩), (⟨"b", "cls"⟩, ⟨#[4]⟩)]

/-- The first sample comes with both its members, and the failure in the place of the second. -/
theorem walkFrom_delivers_mixed_runs :
    ∃ sample,
      (pullTimes pullStep 3 (walkFrom "data.tar" none mixedEntries)).value.1 =
        [some (.ok (.sample sample)),
          some (.error (walkFailure "data.tar" (.readingMember (Text.bytes "b.jpeg")))), none] ∧
      (walkFailure "data.tar" (.readingMember (Text.bytes "b.jpeg"))).message =
        "while streaming data.tar" ∧
      sample.key = "shard/a" ∧
      sample.members.find? "jpeg" = some ⟨#[1, 2]⟩ ∧
      sample.members.find? "cls" = some ⟨#[3]⟩ := by
  have picture : Member.IsAt ⟨"shard/a", "JPEG"⟩ (Text.bytes "shard/a.JPEG") :=
    ofPath?_eq_some_iff.mp (by decide +kernel)
  have label : Member.IsAt ⟨"shard/a", "cls"⟩ (Text.bytes "shard/a.cls") :=
    ofPath?_eq_some_iff.mp (by decide +kernel)
  have other : Member.IsAt ⟨"b", "cls"⟩ (Text.bytes "b.cls") :=
    ofPath?_eq_some_iff.mp (by decide +kernel)
  have lost : Member.IsAt ⟨"b", "jpeg"⟩ (Text.bytes "b.jpeg") :=
    ofPath?_eq_some_iff.mp (by decide +kernel)
  have unreadable : IsUnnamed [0xFF] := ofPath?_eq_none_iff.mp (by decide +kernel)
  have reads : Reads mixedEntries mixedFiles (some (.readingMember (Text.bytes "b.jpeg"))) :=
    .file _ picture (.other (.unnamed _ unreadable
      (.file _ label (.file _ other (.brokenFile [] lost)))))
  have cut : runs mixedFiles = [mixedFiles.take 2, mixedFiles.drop 2] := rfl
  obtain ⟨isRead, pulls, said, -, ofRuns, -⟩ := walkFrom_delivers_runs "data.tar" mixedEntries 3
  obtain ⟨files, fault⟩ := (isRead _ _).mp reads
  rw [← files, ← fault] at pulls
  rw [← files, cut] at ofRuns
  obtain ⟨-, oneKey, -, held⟩ := ofRuns (mixedFiles.take 2) List.mem_cons_self
  refine ⟨sampleOfRun (mixedFiles.take 2), pulls.trans rfl, said _, ?_, ?_, ?_⟩
  · exact (oneKey _ List.mem_cons_self).symm
  · exact (held _ _).mpr ⟨[], _, _, rfl, by decide +kernel, rfl, by decide +kernel⟩
  · exact (held _ _).mpr ⟨[_], _, [], rfl, by decide +kernel, rfl, nofun⟩

end Archive
end Holdout
