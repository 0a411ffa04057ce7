import Holdout.Archive.Rendezvous
import Holdout.Proofs.Archive.Runs

/-!
# A safe way of handing samples over

However the reader and the consumer take turns, the consumer receives the results of the walk
in order, the reader is never more than one sample ahead, and a consumer that leaves is met by
at most one more attempt to send. What has been received and what the reader would still send
are, together, the results of the walk; that carries every other fact.
-/

namespace Holdout
namespace Archive

/-- The sample of a result. -/
def sample? : ItemResult → Option Sample
  | .ok (.sample sample) => some sample
  | _ => none

namespace Act

def received? : Act → Option ItemResult
  | .receive result => some result
  | _ => none

def entry? : Act → Option Entry
  | .read entry => some entry
  | _ => none

def isReachEnd : Act → Bool
  | .reachEnd => true
  | _ => false

def isHearEnd : Act → Bool
  | .hearEnd => true
  | _ => false

end Act

section Trace

variable (acts : List Act)

/-- What the consumer has received. -/
def received : List ItemResult := acts.filterMap Act.received?

/-- The samples that the consumer has received. -/
def receivedSamples : List Sample := (received acts).filterMap sample?

/-- The entries that the reader has read. -/
def entriesRead : List Entry := acts.filterMap Act.entry?

/-- The reader has found the end of the archive. -/
def atArchiveEnd : Bool := acts.any Act.isReachEnd

/-- The samples that are complete: those of all runs of files that have been read, but of the last
run only at the end of the archive. -/
def completed : List Sample :=
  let runs := runs (filesRead (entriesRead acts))
  (if atArchiveEnd acts then runs else runs.dropLast).map sampleOfRun

end Trace

/-- Facts about what has happened since a walk over entries began. -/
structure SafeHandOver (location : String) (entries : List Entry) (acts : List Act)
    (exchange : Exchange) : Prop where
  /-- Nothing is lost, doubled or out of order. -/
  inOrder : received acts <+: delivered (walkFrom location none entries)
  /-- Only the last result of a walk can be a failure. -/
  failureLast : ∀ result ∈ (delivered (walkFrom location none entries)).dropLast,
    (sample? result).isSome
  receivedComplete : receivedSamples acts <+: completed acts
  /-- At most one complete sample has not been received. -/
  oneAhead : (completed acts).length ≤ (receivedSamples acts).length + 1
  /-- Nothing is received once the consumer has left. -/
  afterLeaving : ∀ before after, acts = before ++ .leave :: after → received after = []
  /-- At most one result is sent once the consumer has left, and only its refusal can follow. -/
  sentAfterLeaving : ∀ before between after result,
    acts = before ++ .leave :: (between ++ .send result :: after) →
      after = [] ∨ after = [.refuse result]
  /-- A refused result is the last thing that happens, whether or not it was a sample. -/
  refused : ∀ before after result, acts = before ++ .refuse result :: after →
    .leave ∈ before ∧ after = [] ∧ exchange.reader = .doing .stop
  /-- Who hears of the end has received everything. -/
  whole : .hearEnd ∈ acts → received acts = delivered (walkFrom location none entries)
  /-- A consumer that does not leave is never stuck, and a reader stops. -/
  goesOn : exchange = ⟨.doing .stop, true⟩ ∨
    ∃ act next, act ≠ .leave ∧ Exchange.Move location exchange act next
  /-- Besides hearing of the end again and again, not much can happen. -/
  bounded : (acts.filter fun act => !act.isHearEnd).length ≤ 3 * entries.length + 4

/-- What a task would still send if the entries to come were others. -/
def Task.results (location : String) (others : List Entry) : Task → List ItemResult
  | .walk current _ => delivered (walkFrom location current others)
  | .stop => []

namespace Reader

/-- What the reader does after it has handed over its result. -/
def task : Reader → Task
  | .doing task => task
  | .ready _ task => task
  | .sending _ task => task

/-- The result that the reader hands over. -/
def pending : Reader → List ItemResult
  | .doing _ => []
  | .ready result _ => [result]
  | .sending result _ => [result]

/-- What the reader would still send if the entries to come were others. -/
def results (location : String) (others : List Entry) (reader : Reader) : List ItemResult :=
  reader.pending ++ reader.task.results location others

theorem length_pending_le (reader : Reader) : reader.pending.length ≤ 1 := by
  cases reader with
  | doing task => exact Nat.zero_le 1
  | ready result task => exact Nat.le_refl 1
  | sending result task => exact Nat.le_refl 1

section

variable (location : String) (current : Option Sample) (rest : List Entry)

/-- Reading an entry is a step of the walk. -/
theorem results_afterEntry (entry : Entry) (others : List Entry) :
    (afterEntry location current rest entry).results location others =
      delivered (walkFrom location current (entry :: others)) := by
  cases entry with
  | other => rfl
  | broken => rfl
  | brokenFile path =>
    cases named : Member.ofPath? path with
    | none =>
      simp only [afterEntry, walkFrom, named]
      rfl
    | some member =>
      simp only [afterEntry, walkFrom, named]
      rfl
  | file path data =>
    cases named : Member.ofPath? path with
    | none =>
      simp only [afterEntry, walkFrom, named]
      rfl
    | some member =>
      cases current with
      | none =>
        simp only [afterEntry, walkFrom, named]
        rfl
      | some sample =>
        simp only [afterEntry, walkFrom, named]
        split
        · rfl
        · rfl

theorem results_atEnd (others : List Entry) :
    (atEnd current).results location others = delivered (walkFrom location current []) := by
  cases current with
  | none => rfl
  | some sample => rfl

theorem task_atEnd : (atEnd current).task = .stop := by
  cases current with
  | none => rfl
  | some sample => rfl

/-- The reader goes on behind an entry, unless something has gone wrong there. -/
theorem task_afterEntry (entry : Entry) :
    (∃ next, (afterEntry location current rest entry).task = .walk next rest) ∧
        entry.fault? = none ∨
      (afterEntry location current rest entry).task = .stop := by
  cases entry with
  | other => exact .inl ⟨⟨current, rfl⟩, rfl⟩
  | broken => exact .inr rfl
  | brokenFile path =>
    cases named : Member.ofPath? path with
    | none =>
      simp only [afterEntry, Entry.fault?, named]
      exact .inl ⟨⟨current, rfl⟩, rfl⟩
    | some member =>
      simp only [afterEntry, named]
      exact .inr rfl
  | file path data =>
    refine .inl ⟨?_, rfl⟩
    cases named : Member.ofPath? path with
    | none =>
      simp only [afterEntry, named]
      exact ⟨current, rfl⟩
    | some member =>
      cases current with
      | none =>
        simp only [afterEntry, named]
        exact ⟨_, rfl⟩
      | some sample =>
        simp only [afterEntry, named]
        split
        · exact ⟨_, rfl⟩
        · exact ⟨_, rfl⟩

end

end Reader

/-- The entries that a task has not read. -/
def Task.rest : Task → List Entry
  | .walk _ rest => rest
  | .stop => []

/-- How many things can happen while a task is carried out. -/
def Task.size (task : Task) : Nat :=
  match task with
  | .walk _ rest => 3 * rest.length + 3
  | .stop => 0

/-- How many things the reader can still take part in. -/
def Reader.size : Reader → Nat
  | .doing task => task.size
  | .ready _ task => task.size + 2
  | .sending _ task => task.size + 1

theorem Reader.size_le (reader : Reader) : reader.size ≤ reader.task.size + 2 := by
  cases reader with
  | doing task => exact Nat.le_add_right _ _
  | ready result task => exact Nat.le_refl _
  | sending result task => exact Nat.le_succ _

theorem Reader.size_afterEntry_lt (location : String) (current : Option Sample)
    (rest : List Entry) (entry : Entry) :
    (afterEntry location current rest entry).size <
      (Reader.doing (.walk current (entry :: rest))).size := by
  have few := (afterEntry location current rest entry).size_le
  have before : (Reader.doing (.walk current (entry :: rest))).size = 3 * rest.length + 6 := rfl
  rcases task_afterEntry location current rest entry with ⟨⟨next, walks⟩, _⟩ | stops
  · rw [walks, Task.size] at few
    omega
  · rw [stops, Task.size] at few
    omega

theorem Reader.size_atEnd_lt (current : Option Sample) :
    (atEnd current).size < (Reader.doing (.walk current [])).size := by
  cases current with
  | none => exact Nat.zero_lt_succ _
  | some sample => exact Nat.lt_succ_self _

namespace Exchange

/-- How many things can still happen. -/
def size (exchange : Exchange) : Nat :=
  exchange.reader.size + if exchange.abandoned then 0 else 1

theorem size_start (entries : List Entry) : (start entries).size = 3 * entries.length + 4 := rfl

variable {location : String} {first last : Exchange}

section Move

variable {act : Act}

/-- What is received was the next thing to be sent. -/
theorem Move.results
    (move : Move location first act last)
    (kept : ∀ result, act ≠ .refuse result)
    (others : List Entry)
    (ends : act.isReachEnd = true → others = []) :
    first.reader.results location (act.entry?.toList ++ others) =
      act.received?.toList ++ last.reader.results location others := by
  cases move with
  | read current entry rest abandoned =>
    exact (Reader.results_afterEntry location current rest entry others).symm
  | reachEnd current abandoned =>
    rw [ends rfl]
    exact (Reader.results_atEnd location current []).symm
  | send result task abandoned => rfl
  | receive result task => rfl
  | refuse result task => exact absurd rfl (kept result)
  | leave reader => rfl
  | hearEnd => rfl

/-- A reader that has stopped reads nothing and does not begin again. -/
theorem Move.of_stop
    (move : Move location first act last)
    (stop : first.reader.task = .stop) :
    act.entry? = none ∧ act.isReachEnd = false ∧ last.reader.task = .stop := by
  cases move with
  | read current entry rest abandoned => cases stop
  | reachEnd current abandoned => cases stop
  | send result task abandoned => exact ⟨rfl, rfl, stop⟩
  | receive result task => exact ⟨rfl, rfl, stop⟩
  | refuse result task => exact ⟨rfl, rfl, rfl⟩
  | leave reader => exact ⟨rfl, rfl, stop⟩
  | hearEnd => exact ⟨rfl, rfl, rfl⟩

/-- Whatever happens leaves less to happen, unless it is the end being heard of. -/
theorem Move.size_lt (move : Move location first act last) :
    last.size + (if act.isHearEnd then 0 else 1) ≤ first.size := by
  cases move with
  | read current entry rest abandoned =>
    have less := Reader.size_afterEntry_lt location current rest entry
    simp only [size, Act.isHearEnd, Bool.false_eq_true, if_false]
    omega
  | reachEnd current abandoned =>
    have less := Reader.size_atEnd_lt current
    simp only [size, Act.isHearEnd, Bool.false_eq_true, if_false]
    omega
  | send result task abandoned =>
    simp only [size, Reader.size, Act.isHearEnd, Bool.false_eq_true, if_false]
    omega
  | receive result task => exact Nat.le_refl _
  | refuse result task => exact Nat.le_add_left _ _
  | leave reader => exact Nat.le_refl _
  | hearEnd => exact Nat.le_refl _

/-- Nothing is received by a consumer that has left, and it does not come back. -/
theorem Move.of_abandoned
    (move : Move location first act last)
    (gone : first.abandoned = true) :
    act.received? = none ∧ last.abandoned = true := by
  cases move with
  | read current entry rest abandoned => exact ⟨rfl, gone⟩
  | reachEnd current abandoned => exact ⟨rfl, gone⟩
  | send result task abandoned => exact ⟨rfl, gone⟩
  | receive result task => cases gone
  | refuse result task => exact ⟨rfl, rfl⟩
  | leave reader => cases gone
  | hearEnd => cases gone

/-- The consumer is there until it leaves. -/
theorem Move.of_present
    (move : Move location first act last)
    (present : first.abandoned = false) :
    act = .leave ∨ last.abandoned = false := by
  cases move with
  | read current entry rest abandoned => exact .inr present
  | reachEnd current abandoned => exact .inr present
  | send result task abandoned => exact .inr present
  | receive result task => exact .inr rfl
  | refuse result task => cases present
  | leave reader => exact .inl rfl
  | hearEnd => exact .inr rfl

/-- While the consumer is there or the reader is at work, something can happen. -/
theorem exists_move (location : String) (exchange : Exchange) :
    exchange = ⟨.doing .stop, true⟩ ∨
      ∃ act next, act ≠ .leave ∧ Move location exchange act next := by
  obtain ⟨reader, abandoned⟩ := exchange
  cases reader with
  | doing task =>
    cases task with
    | walk current rest =>
      cases rest with
      | nil => exact .inr ⟨_, _, Act.noConfusion, .reachEnd current abandoned⟩
      | cons entry rest => exact .inr ⟨_, _, Act.noConfusion, .read current entry rest abandoned⟩
    | stop =>
      cases abandoned with
      | false => exact .inr ⟨_, _, Act.noConfusion, .hearEnd⟩
      | true => exact .inl rfl
  | ready result task => exact .inr ⟨_, _, Act.noConfusion, .send result task abandoned⟩
  | sending result task =>
    cases abandoned with
    | false => exact .inr ⟨_, _, Act.noConfusion, .receive result task⟩
    | true => exact .inr ⟨_, _, Act.noConfusion, .refuse result task⟩

end Move

namespace Leads

variable {acts : List Act}

/-- What happened can be told in two parts. -/
theorem split
    {before after : List Act}
    (leads : Leads location first (before ++ after) last) :
    ∃ middle, Leads location first before middle ∧ Leads location middle after last := by
  induction before generalizing first with
  | nil => exact ⟨first, .nil first, leads⟩
  | cons act others inductionHypothesis =>
    cases leads with
    | cons move rest =>
      obtain ⟨middle, early, late⟩ := inductionHypothesis rest
      exact ⟨middle, .cons move early, late⟩

/-- Once the reader has stopped and the consumer has left, nothing happens. -/
theorem of_over (leads : Leads location ⟨.doing .stop, true⟩ acts last) :
    acts = [] ∧ last = ⟨.doing .stop, true⟩ := by
  cases leads with
  | nil => exact ⟨rfl, rfl⟩
  | cons move rest => cases move

theorem of_stop
    (leads : Leads location first acts last)
    (stop : first.reader.task = .stop) :
    entriesRead acts = [] ∧ atArchiveEnd acts = false := by
  induction leads with
  | nil exchange => exact ⟨rfl, rfl⟩
  | cons move _ inductionHypothesis =>
    obtain ⟨unread, goesOn, stopped⟩ := move.of_stop stop
    obtain ⟨noneRead, noEnd⟩ := inductionHypothesis stopped
    exact ⟨by rw [entriesRead, List.filterMap_cons_none unread]; exact noneRead,
      by rw [atArchiveEnd, List.any_cons, goesOn, Bool.false_or]; exact noEnd⟩

theorem of_abandoned
    (leads : Leads location first acts last)
    (gone : first.abandoned = true) :
    received acts = [] ∧ last.abandoned = true := by
  induction leads with
  | nil exchange => exact ⟨rfl, gone⟩
  | cons move _ inductionHypothesis =>
    obtain ⟨unreceived, stillGone⟩ := move.of_abandoned gone
    obtain ⟨noneReceived, goneAtLast⟩ := inductionHypothesis stillGone
    exact ⟨by rw [received, List.filterMap_cons_none unreceived]; exact noneReceived, goneAtLast⟩

theorem leave_mem
    (leads : Leads location first acts last)
    (present : first.abandoned = false)
    (gone : last.abandoned = true) :
    .leave ∈ acts := by
  induction leads with
  | nil exchange =>
    rw [present] at gone
    cases gone
  | cons move _ inductionHypothesis =>
    rcases move.of_present present with left | stillPresent
    · rw [left]
      exact List.mem_cons_self
    · exact List.mem_cons_of_mem _ (inductionHypothesis stillPresent gone)

theorem length_add_size_le (leads : Leads location first acts last) :
    (acts.filter fun act => !act.isHearEnd).length + last.size ≤ first.size := by
  induction leads with
  | nil exchange => exact Nat.le_of_eq (Nat.zero_add _)
  | @cons _ _ _ act acts move _ inductionHypothesis =>
    have less := move.size_lt
    rw [List.filter_cons]
    cases heard : act.isHearEnd
    all_goals simp only [heard, Bool.not_true, Bool.not_false, Bool.false_eq_true, if_true,
      if_false, List.length_cons] at less ⊢
    all_goals omega

/-- The entries are read in order, and the end is not found before all have been read. -/
theorem entriesRead_prefix (leads : Leads location first acts last) :
    entriesRead acts <+: first.reader.task.rest ∧
      (atArchiveEnd acts = true →
        entriesRead acts = first.reader.task.rest ∧ firstFault? (entriesRead acts) = none) := by
  induction leads with
  | nil exchange => exact ⟨List.nil_prefix, Bool.noConfusion⟩
  | @cons _ _ _ _ acts move rest inductionHypothesis =>
    cases move with
    | read current entry others abandoned =>
      rcases Reader.task_afterEntry location current others entry with
        ⟨⟨next, walks⟩, sound⟩ | stops
      · rw [walks] at inductionHypothesis
        refine ⟨List.prefix_cons_inj entry |>.mpr inductionHypothesis.1, fun ended => ?_⟩
        obtain ⟨all, faultless⟩ := inductionHypothesis.2 ended
        refine ⟨congrArg (entry :: ·) all, ?_⟩
        have skipped : firstFault? (entry :: entriesRead acts) =
            firstFault? (entriesRead acts) :=
          List.findSome?_cons_of_isNone (Option.isNone_iff_eq_none.mpr sound)
        exact skipped.trans faultless
      · obtain ⟨noneRead, noEnd⟩ := rest.of_stop stops
        have single : entriesRead (.read entry :: acts) = [entry] := congrArg (entry :: ·) noneRead
        rw [single]
        refine ⟨⟨others, rfl⟩, fun ended => ?_⟩
        exact absurd (noEnd.symm.trans ended) Bool.false_ne_true
    | reachEnd current abandoned =>
      have noneRead := (rest.of_stop (Reader.task_atEnd current)).1
      have none : entriesRead (.reachEnd :: acts) = [] := noneRead
      rw [none]
      exact ⟨List.nil_prefix, fun _ => ⟨rfl, rfl⟩⟩
    | send result task abandoned => exact inductionHypothesis
    | receive result task => exact inductionHypothesis
    | refuse result task =>
      rw [rest.of_over.1]
      exact ⟨List.nil_prefix, Bool.noConfusion⟩
    | leave reader => exact inductionHypothesis
    | hearEnd => exact inductionHypothesis

/-- What has been received and what some reader would still send are what was to be sent at first.
That reader is the one there is, unless its last result was refused. -/
theorem results
    (leads : Leads location first acts last)
    (others : List Entry)
    (ends : atArchiveEnd acts = true → others = []) :
    ∃ reader : Reader,
      first.reader.results location (entriesRead acts ++ others) =
        received acts ++ reader.results location others ∧
      (last.reader = reader ∨ last = ⟨.doing .stop, true⟩) ∧
      (first.reader.task = .stop ∨ atArchiveEnd acts = true → reader.task = .stop) := by
  induction leads with
  | nil exchange =>
    refine ⟨exchange.reader, rfl, .inl rfl, fun stops => ?_⟩
    exact stops.resolve_right Bool.false_ne_true
  | @cons first middle last act acts move rest inductionHypothesis =>
    -- Nothing can happen behind a refusal, so the reader to be found is the one that was refused.
    by_cases isRefusal : ∃ result, act = .refuse result
    · obtain ⟨result, isRefusal⟩ := isRefusal
      subst isRefusal
      cases move with
      | refuse result task =>
        obtain ⟨nothing, isOver⟩ := rest.of_over
        subst nothing
        exact ⟨.sending result task, rfl, .inr isOver,
          fun stops => stops.resolve_right Bool.false_ne_true⟩
    · have kept : ∀ result, act ≠ .refuse result :=
        fun result same => isRefusal ⟨result, same⟩
      have endsLater : atArchiveEnd acts = true → others = [] := by
        intro ended
        apply ends
        rw [atArchiveEnd, List.any_cons, Bool.or_eq_true]
        exact .inr ended
      obtain ⟨reader, balance, same, stops⟩ := inductionHypothesis endsLater
      have stopsAfter : act.isReachEnd = true → middle.reader.task = .stop := by
        intro ended
        cases move with
        | reachEnd current abandoned => exact Reader.task_atEnd current
        | _ => cases ended
      have endsHere : act.isReachEnd = true → entriesRead acts ++ others = [] := by
        intro ended
        rw [(rest.of_stop (stopsAfter ended)).1, List.nil_append]
        apply ends
        rw [atArchiveEnd, List.any_cons, ended, Bool.true_or]
      have readMore : entriesRead (act :: acts) = act.entry?.toList ++ entriesRead acts := by
        rw [entriesRead, List.filterMap_cons]
        cases act.entry? with
        | none => rfl
        | some entry => rfl
      have receivedMore : received (act :: acts) = act.received?.toList ++ received acts := by
        rw [received, List.filterMap_cons]
        cases act.received? with
        | none => rfl
        | some result => rfl
      refine ⟨reader, ?_, same, ?_⟩
      · rw [readMore, receivedMore, List.append_assoc, List.append_assoc, ← balance]
        exact move.results kept _ endsHere
      · intro isStop
        rw [atArchiveEnd, List.any_cons, Bool.or_eq_true] at isStop
        rcases isStop with stopped | ended | endedLater
        · exact stops (.inl (move.of_stop stopped).2.2)
        · exact stops (.inl (stopsAfter ended))
        · exact stops (.inr endedLater)

end Leads

end Exchange

section Samples

variable (location : String)

/-- An archive that breaks off behind some entries has the same files. -/
theorem read_breakingOff (entries : List Entry) :
    filesRead (entries ++ [.broken]) = filesRead entries ∧
      (firstFault? (entries ++ [.broken])).isSome := by
  rw [filesRead_append, firstFault?_append]
  cases firstFault? entries with
  | none => exact ⟨List.append_nil _, rfl⟩
  | some activity => exact ⟨List.append_nil _, rfl⟩

theorem filterMap_sample?_map (runs : List (List ReadFile)) :
    (runs.map fun run => Except.ok (.sample (sampleOfRun run))).filterMap sample? =
      runs.map sampleOfRun := by
  rw [List.filterMap_map, ← List.filterMap_eq_map]
  rfl

/-- A failure is in the place of the last sample. -/
theorem filterMap_sample?_runResults (files : List ReadFile) (fault : Option Activity) :
    (runResults location files fault).filterMap sample? =
      (if fault.isSome then (runs files).dropLast else runs files).map sampleOfRun := by
  cases fault with
  | none => exact filterMap_sample?_map (runs files)
  | some activity =>
    have noSample : [Except.error (walkFailure location activity)].filterMap sample? = [] := rfl
    rw [runResults, List.filterMap_append, filterMap_sample?_map, noSample, List.append_nil]
    rfl

theorem isSome_sample?_of_mem_dropLast
    {files : List ReadFile}
    {fault : Option Activity}
    {result : ItemResult}
    (among : result ∈ (runResults location files fault).dropLast) :
    (sample? result).isSome := by
  have isRun : ∃ run : List ReadFile, .ok (.sample (sampleOfRun run)) = result := by
    cases fault with
    | none =>
      obtain ⟨run, _, same⟩ := List.mem_map.mp (List.dropLast_subset _ among)
      exact ⟨run, same⟩
    | some activity =>
      rw [runResults, List.dropLast_concat] at among
      obtain ⟨run, _, same⟩ := List.mem_map.mp among
      exact ⟨run, same⟩
  obtain ⟨run, same⟩ := isRun
  rw [← same]
  rfl

/-- If the task behind it has no sample to send, the reader has at most one. -/
theorem Reader.length_samples_le
    (reader : Reader)
    (others : List Entry)
    (none : (reader.task.results location others).filterMap sample? = []) :
    ((reader.results location others).filterMap sample?).length ≤ 1 := by
  rw [results, List.filterMap_append, none, List.append_nil]
  exact (List.length_filterMap_le _ _).trans reader.length_pending_le

end Samples

namespace Exchange

variable {location : String} {entries : List Entry} {acts : List Act} {last : Exchange}

/-- The samples that are complete are those that have been received, and at most one more. -/
theorem Leads.completed_eq (leads : Leads location (.start entries) acts last) :
    ∃ ahead : List Sample,
      completed acts = receivedSamples acts ++ ahead ∧ ahead.length ≤ 1 := by
  cases ended : atArchiveEnd acts with
  | true =>
    obtain ⟨reader, balance, _, stops⟩ := leads.results [] fun _ => rfl
    have faultless := (leads.entriesRead_prefix.2 ended).2
    refine ⟨(reader.results location []).filterMap sample?, ?_,
      reader.length_samples_le location [] ?_⟩
    · have samples := congrArg (List.filterMap sample?) balance
      rw [List.filterMap_append, List.append_nil] at samples
      refine .trans ?_ samples
      refine .trans ?_ (congrArg _ (delivered_walkFrom_none location (entriesRead acts)).symm)
      rw [filterMap_sample?_runResults, faultless, completed, ended]
      rfl
    · rw [stops (.inr ended)]
      rfl
  | false =>
    -- What would be sent if the archive broke off here are the samples that are complete.
    have goesOn : atArchiveEnd acts = true → [Entry.broken] = [] := by
      rw [ended]
      exact Bool.noConfusion
    obtain ⟨reader, balance, _, _⟩ := leads.results [.broken] goesOn
    obtain ⟨sameFiles, faulty⟩ := read_breakingOff (entriesRead acts)
    refine ⟨(reader.results location [.broken]).filterMap sample?, ?_,
      reader.length_samples_le location [.broken] ?_⟩
    · have samples := congrArg (List.filterMap sample?) balance
      rw [List.filterMap_append] at samples
      refine .trans ?_ samples
      refine .trans ?_
        (congrArg _ (delivered_walkFrom_none location (entriesRead acts ++ [.broken])).symm)
      rw [filterMap_sample?_runResults, sameFiles, faulty, completed, ended]
      rfl
    · cases reader.task with
      | walk current rest => rfl
      | stop => rfl

/-- What has been received and what some reader would still send are the results of the walk. That
reader is the one there is, unless its last result was refused. -/
theorem Leads.received_append (leads : Leads location (.start entries) acts last) :
    ∃ (reader : Reader) (rest : List Entry),
      delivered (walkFrom location none entries) =
        received acts ++ reader.results location rest ∧
      (last.reader = reader ∨ last = ⟨.doing .stop, true⟩) := by
  obtain ⟨⟨rest, whole⟩, all⟩ := leads.entriesRead_prefix
  have ends : atArchiveEnd acts = true → rest = [] := by
    intro ended
    rw [(all ended).1] at whole
    exact List.append_right_eq_self.mp whole
  obtain ⟨reader, balance, same, _⟩ := leads.results rest ends
  rw [whole] at balance
  exact ⟨reader, rest, balance, same⟩

/-- Who hears of the end has received the whole walk. -/
theorem Leads.received_eq
    (leads : Leads location (.start entries) acts last)
    (heard : .hearEnd ∈ acts) :
    received acts = delivered (walkFrom location none entries) := by
  obtain ⟨before, after, apart⟩ := List.append_of_mem heard
  obtain ⟨_, _, balance, _⟩ := leads.received_append
  have early : delivered (walkFrom location none entries) = received before := by
    rw [apart] at leads
    obtain ⟨middle, early, late⟩ := leads.split
    obtain ⟨reader, rest, balance, same⟩ := early.received_append
    cases late with
    | cons move _ =>
      cases move with
      | hearEnd =>
        rcases same with isReader | isOver
        · rw [balance, ← isReader]
          exact List.append_nil _
        · cases isOver
  have more : received acts = received before ++ received (.hearEnd :: after) := by
    rw [apart]
    exact List.filterMap_append
  have atMost : received acts <+: delivered (walkFrom location none entries) := ⟨_, balance.symm⟩
  have atLeast : delivered (walkFrom location none entries) <+: received acts :=
    ⟨_, by rw [early, more]⟩
  exact atMost.eq_of_length (Nat.le_antisymm atMost.length_le atLeast.length_le)

/-- A result that is sent to nobody is refused, and that is the last thing that happens. -/
theorem Leads.of_sending
    {result : ItemResult}
    {task : Task}
    (leads : Leads location ⟨.sending result task, true⟩ acts last) :
    acts = [] ∨ acts = [.refuse result] := by
  cases leads with
  | nil => exact .inl rfl
  | cons move rest =>
    cases move with
    | refuse result task => exact .inr (congrArg (.refuse result :: ·) rest.of_over.1)

/-- In whatever way the reader of entries and the consumer of their samples take turns, and whenever
the consumer leaves, their exchange is safe. -/
theorem Leads.safeHandOver (leads : Leads location (.start entries) acts last) :
    SafeHandOver location entries acts last := by
  obtain ⟨_, _, balance, _⟩ := leads.received_append
  obtain ⟨ahead, complete, few⟩ := leads.completed_eq
  have results := delivered_walkFrom_none location entries
  refine ⟨⟨_, balance.symm⟩, ?failureLast, ⟨ahead, complete.symm⟩, ?oneAhead, ?afterLeaving,
    ?sentAfterLeaving, ?refused, leads.received_eq, last.exists_move location, ?bounded⟩
  case failureLast =>
    intro result among
    rw [results] at among
    exact isSome_sample?_of_mem_dropLast location among
  case oneAhead =>
    rw [complete, List.length_append]
    exact Nat.add_le_add_left few _
  case afterLeaving =>
    intro before after apart
    rw [apart] at leads
    obtain ⟨_, _, late⟩ := leads.split
    cases late with
    | cons move rest =>
      cases move with
      | leave reader => exact (rest.of_abandoned rfl).1
  case sentAfterLeaving =>
    intro before between after result apart
    rw [apart] at leads
    obtain ⟨_, _, late⟩ := leads.split
    cases late with
    | cons move rest =>
      cases move with
      | leave reader =>
        obtain ⟨_, early, late⟩ := rest.split
        have gone := (early.of_abandoned rfl).2
        cases late with
        | cons move rest =>
          cases move with
          | send result task abandoned =>
            rw [show abandoned = true from gone] at rest
            exact rest.of_sending
  case refused =>
    intro before after result apart
    rw [apart] at leads
    obtain ⟨_, early, late⟩ := leads.split
    cases late with
    | cons move rest =>
      cases move with
      | refuse result task =>
        obtain ⟨nothing, isOver⟩ := rest.of_over
        exact ⟨early.leave_mem rfl rfl, nothing, congrArg Exchange.reader isOver⟩
  case bounded =>
    have total := leads.length_add_size_le
    rw [Exchange.size_start] at total
    exact (Nat.le_add_right _ _).trans total

end Exchange

/-- So is the exchange of the reader of an archive and the consumer of its samples. -/
theorem safeHandOver_of_leads
    (location : String)
    (body : Body)
    {acts : List Act}
    {exchange : Exchange}
    (leads : Exchange.Leads location (.start (entries body)) acts exchange) :
    SafeHandOver location (entries body) acts exchange :=
  leads.safeHandOver

/-- The samples of the small archive, as the reader collects them. -/
def collectedSamples : Sample × Sample :=
  (.ofMembers "shard.0/a" [("seg.png", ⟨#[1, 2]⟩), ("jpeg", ⟨#[3]⟩)],
    .ofMembers "b" [("cls", ⟨#[4]⟩)])

/-- The consumer receives the first sample of the small archive and leaves while the reader offers
the second. -/
def leavingActs : List Act :=
  let (first, second) := collectedSamples
  smallEntries.map .read ++
    [.send (.ok (.sample first)), .receive (.ok (.sample first)), .reachEnd,
      .send (.ok (.sample second)), .leave, .refuse (.ok (.sample second))]

theorem leads_leavingActs :
    Exchange.Leads "data.tar" (.start (entries smallBody)) leavingActs ⟨.doing .stop, true⟩ := by
  obtain ⟨segmentation, picture, label⟩ := ofPath?_smallSamples
  rw [entries_smallBody]
  refine .cons (.read none .other _ false) (.cons (.read none _ _ false) ?_)
  simp only [Reader.afterEntry, memberFile, segmentation]
  refine .cons (.read _ _ _ false) ?_
  simp only [Reader.afterEntry, picture]
  rw [if_pos (by decide)]
  refine .cons (.read _ _ _ false) ?_
  simp only [Reader.afterEntry, label]
  rw [if_neg (by decide)]
  refine .cons (.send _ _ false) (.cons (.receive _ _) ?_)
  refine .cons (.reachEnd _ false) (.cons (.send _ _ false) ?_)
  exact .cons (.leave _) (.cons (.refuse _ _) (.nil _))

/-- A run in which the second sample is refused is safe. -/
theorem safeHandOver_leavingActs :
    Exchange.Leads "data.tar" (.start (entries smallBody)) leavingActs ⟨.doing .stop, true⟩ ∧
      SafeHandOver "data.tar" (entries smallBody) leavingActs ⟨.doing .stop, true⟩ :=
  ⟨leads_leavingActs, safeHandOver_of_leads "data.tar" smallBody leads_leavingActs⟩

end Archive
end Holdout
