import Holdout.Command.Stream
import Holdout.Proofs.Cursor

/-!
# Printed records

The command requests one record after the other from a new cursor. It prints a line for each record
until it has printed as many as it was told to, or until a request is answered with an error. If the
error says that the stream has ended, it tells so on a line of its own, and with any other error it
fails. Behind that it requests nothing, so what a stream has further on makes no difference. Only the
first request opens the source, for every other one comes behind a record.
-/

namespace Holdout

namespace Cursor

/-! ## Requests in a row -/

/-- Requests of a cursor have these results, let these events happen, and leave the cursor and the
source as they are then. -/
def Answers
    (source : Source τ σ)
    (cursor : Cursor σ)
    (memory : τ)
    (results : List RecordResult)
    (events : List Event)
    (last : Cursor σ)
    (remembered : τ) : Prop :=
  (calls source (List.replicate results.length .next) memory cursor).run? =
    some ⟨(results.map some, last, remembered), events⟩

section Answers

variable {source : Source τ σ} {memory remembered : τ} {cursor last : Cursor σ}
  {result : RecordResult} {results : List RecordResult} {events : List Event}

theorem answers_nil_iff :
    Answers source cursor memory [] events last remembered ↔
      events = [] ∧ last = cursor ∧ remembered = memory := by
  have idle : (calls source [] memory cursor).run? = some ⟨([], cursor, memory), []⟩ := rfl
  rw [Answers, List.length_nil, List.replicate_zero, idle]
  simp [eq_comm, and_comm, and_assoc]

/-- The first request has the first result, and the others go on from where it has led. -/
theorem answers_cons_iff :
    Answers source cursor memory (result :: results) events last remembered ↔
      ∃ next further before behind,
        (cursor.next source memory).run? = some ⟨(result, next, further), before⟩ ∧
        Answers source next further results behind last remembered ∧
        events = before ++ behind := by
  rw [Answers, List.length_cons, List.replicate_succ, run?_calls_cons, run?_call_next,
    Option.bind_map, Option.bind_eq_some_iff]
  constructor
  · rintro ⟨⟨⟨first, next, further⟩, before⟩, isNext, others⟩
    obtain ⟨⟨⟨answers, _⟩, behind⟩, areOthers, same⟩ := Option.map_eq_some_iff.mp others
    cases same
    exact ⟨next, further, before, behind, isNext, areOthers, rfl⟩
  · rintro ⟨next, further, before, behind, isNext, others, rfl⟩
    refine ⟨_, isNext, ?_⟩
    rw [Answers] at others
    simp [others]

/-- Requests can be stopped behind any of them, and gone on with from there. -/
theorem Answers.split
    {first second : List RecordResult}
    (answers : Answers source cursor memory (first ++ second) events last remembered) :
    ∃ middle further before behind,
      Answers source cursor memory first before middle further ∧
      Answers source middle further second behind last remembered ∧
      events = before ++ behind := by
  induction first generalizing cursor memory events with
  | nil =>
    have nothing : Answers source cursor memory [] [] cursor memory := rfl
    exact ⟨cursor, memory, [], events, nothing, answers, rfl⟩
  | cons result first inductionHypothesis =>
    obtain ⟨next, further, before, _, isNext, others, rfl⟩ := answers_cons_iff.mp answers
    obtain ⟨middle, left, happened, behind, stops, goesOn, rfl⟩ := inductionHypothesis others
    exact ⟨middle, left, before ++ happened, behind,
      answers_cons_iff.mpr ⟨next, further, before, happened, isNext, stops, rfl⟩, goesOn,
      (List.append_assoc _ _ _).symm⟩

/-- A request is answered with the first result that a pass owes, or with the end of the stream. -/
theorem next_of_owes
    (set : ValidationSet)
    {stream : RecordStream σ}
    (owes : stream.Owes source results)
    (memory : τ) :
    ∃ after events,
      (Cursor.next source memory ⟨set, some stream⟩).run? =
        some ⟨(results.headD (.error .exhausted), ⟨set, some after⟩, memory), events⟩ ∧
      after.Owes source results.tail := by
  obtain ⟨run, isRun, first, others, -⟩ := RecordStream.next_of_owes owes
  refine ⟨run.value.2, run.events, ?_, others⟩
  rw [run?_next_of_pass rfl, isRun, Option.map_some, first]

/-- A pass hands over what it owes, and the end of the stream is told behind that. -/
theorem answers_of_owes
    (set : ValidationSet)
    {stream : RecordStream σ}
    (owes : stream.Owes source results)
    (memory : τ) :
    ∃ events last,
      Answers source ⟨set, some stream⟩ memory (results ++ [.error .exhausted]) events last
        memory := by
  induction results generalizing stream with
  | nil =>
    obtain ⟨after, events, isNext, -⟩ := next_of_owes set owes memory
    exact ⟨events ++ [], _, answers_cons_iff.mpr ⟨_, _, events, [], isNext, rfl, rfl⟩⟩
  | cons result results inductionHypothesis =>
    obtain ⟨after, before, isNext, others⟩ := next_of_owes set owes memory
    obtain ⟨behind, last, answers⟩ := inductionHypothesis others
    exact ⟨before ++ behind, last,
      answers_cons_iff.mpr ⟨_, _, before, behind, isNext, answers, rfl⟩⟩

/-- A new cursor hands over what the pass owes that its source opens. -/
theorem answers_of_opened
    {set : ValidationSet}
    {stream : RecordStream σ}
    {after : τ}
    (opened : (set.openWith source memory).value = (.ok stream, after))
    (owes : stream.Owes source results) :
    ∃ events last,
      Answers source (Cursor.new set) memory (results ++ [.error .exhausted]) events last
        after := by
  obtain ⟨events, last, answers⟩ := answers_of_owes set owes after
  obtain ⟨first, others, nonempty⟩ := List.exists_cons_of_ne_nil
    (List.append_ne_nil_of_right_ne_nil results (List.cons_ne_nil (.error .exhausted) []))
  rw [nonempty] at answers ⊢
  obtain ⟨next, further, before, behind, isNext, goesOn, rfl⟩ := answers_cons_iff.mp answers
  have noPass : (Cursor.new set : Cursor σ).stream = none := rfl
  have isFirst : ((Cursor.new set).next source memory).run? =
      some ⟨(first, next, further), (set.openWith source memory).events ++ before⟩ := by
    rw [run?_next_of_openWith noPass opened]
    exact congrArg (Option.map _) isNext
  exact ⟨_, last, answers_cons_iff.mpr ⟨next, further, _, behind, isFirst, goesOn, rfl⟩⟩

/-! ## Openings -/

/-- Each of the events comes from pulling an item. -/
def Pulled (source : Source τ σ) (events : List Event) : Prop :=
  ∀ event ∈ events, ∃ place, event ∈ (source.pull place).events

theorem Pulled.append {first second : List Event}
    (pulled : Pulled source first)
    (pulledBehind : Pulled source second) :
    Pulled source (first ++ second) :=
  List.forall_mem_append.mpr ⟨pulled, pulledBehind⟩

theorem pulled_of_next
    {stream : RecordStream σ}
    {run : Logged (RecordResult × RecordStream σ)}
    (comes : (stream.next source).run? = some run) :
    Pulled source run.events :=
  RecordStream.events_of_next (fun place _ happened => ⟨place, happened⟩) comes

/-- A cursor with a pass keeps it, and asks its source for nothing but items. -/
theorem Answers.pulled_of_pass
    {stream : RecordStream σ}
    (pass : cursor.stream = some stream)
    (answers : Answers source cursor memory results events last remembered) :
    Pulled source events := by
  induction results generalizing cursor stream memory events with
  | nil =>
    rw [(answers_nil_iff.mp answers).1]
    exact List.forall_mem_nil _
  | cons result results inductionHypothesis =>
    obtain ⟨next, further, before, behind, isNext, others, rfl⟩ := answers_cons_iff.mp answers
    rw [run?_next_of_pass pass] at isNext
    obtain ⟨run, comes, same⟩ := Option.map_eq_some_iff.mp isNext
    cases same
    exact (pulled_of_next comes).append (inductionHypothesis rfl others)

/-- The first request of a new cursor opens the set, and a record comes from a pass. -/
theorem opens_of_next_new
    {set : ValidationSet}
    (comes : ((Cursor.new set).next source memory).run? =
      some ⟨(result, cursor, remembered), events⟩) :
    ∃ pulled,
      events = (set.openWith source memory).events ++ pulled ∧
      Pulled source pulled ∧
      ((∃ stream, cursor.stream = some stream) ∨ ∃ error, result = .error error) := by
  have noPass : (Cursor.new set : Cursor σ).stream = none := rfl
  rcases opened : (set.openWith source memory).value with ⟨cause | stream, after⟩
  · have entered : (Cursor.new set).enter source memory = set.openWith source memory := rfl
    rw [next, entered, Course.run?_bind, Course.run?_lift, Option.bind_some, opened] at comes
    cases comes
    exact ⟨[], rfl, List.forall_mem_nil _, .inr ⟨cause, rfl⟩⟩
  · rw [run?_next_of_openWith noPass opened, run?_next_of_pass rfl, Option.map_map] at comes
    obtain ⟨run, isRun, same⟩ := Option.map_eq_some_iff.mp comes
    cases same
    exact ⟨run.events, rfl, pulled_of_next isRun, .inl ⟨_, rfl⟩⟩

/-- Requests of a new cursor open the set once, if no request is made behind an error. -/
theorem Answers.opens_of_new
    {set : ValidationSet}
    (answers : Answers source (Cursor.new set) memory (result :: results) events last remembered)
    (goesOn : results = [] ∨ ∃ record, result = .ok record) :
    ∃ pulled, events = (set.openWith source memory).events ++ pulled ∧ Pulled source pulled := by
  obtain ⟨next, further, before, behind, isNext, others, rfl⟩ := answers_cons_iff.mp answers
  obtain ⟨pulled, rfl, isPulled, pass | ⟨error, rfl⟩⟩ := opens_of_next_new isNext
  · obtain ⟨stream, pass⟩ := pass
    exact ⟨pulled ++ behind, List.append_assoc _ _ _,
      isPulled.append (others.pulled_of_pass pass)⟩
  · obtain rfl | ⟨record, isRecord⟩ := goesOn
    · obtain ⟨rfl, -, -⟩ := answers_nil_iff.mp others
      exact ⟨pulled, List.append_nil _, isPulled⟩
    · cases isRecord

end Answers

end Cursor

namespace Command

/-! ## Lines -/

/-- The lines for records, of which the first has the number `index`. -/
def recordLines (index : Nat) (records : List Record) : List String :=
  (records.zipIdx index).map fun (record, index) =>
    Text.pad .right 6 (toString index) ++ "  " ++ recordLine record

/-- The line that tells the end of a stream with so many records. -/
def endLine (count : Nat) : String := s!"end of stream after {count} records"

/-- The line before all others. -/
def headLine (set : ValidationSet) : String := set.name ++ " from " ++ set.locator

/-- What a command comes to at an error behind so many records. -/
def errorOutcome (count : Nat) : DatasetError → Outcome
  | .exhausted => .lines [endLine count]
  | error => .failed (.dataset error)

theorem errorOutcome_of_ne
    {error : DatasetError}
    (noEnd : error ≠ .exhausted)
    (count : Nat) :
    errorOutcome count error = .failed (.dataset error) := by
  cases error with
  | exhausted => exact absurd rfl noEnd
  | _ => rfl

section Printing

variable {source : Source τ σ} {memory remembered : τ} {cursor last : Cursor σ}
  {records : List Record} {events : List Event}

/-- A record is printed on a line before all that is printed behind it. -/
theorem run?_printRecords_of_ok
    {record : Record}
    (comes : (cursor.next source memory).run? =
      some ⟨(.ok record, last, remembered), events⟩)
    (left index : Nat) :
    (printRecords source (left + 1) index cursor memory).run? =
      (printRecords source left (index + 1) last remembered).run?.map fun run =>
        ⟨⟨recordLines index [record] ++ run.value.printed, run.value.error⟩,
          events ++ run.events⟩ := by
  rw [printRecords, Course.run?_bind, comes, Option.bind_some]
  simp only [Course.run?_bind]
  cases (printRecords source left (index + 1) last remembered).run? with
  | none => rfl
  | some run => simp [recordLines, Outcome.after]

/-- Behind an error nothing is requested. -/
theorem run?_printRecords_of_error
    {error : DatasetError}
    (comes : (cursor.next source memory).run? =
      some ⟨(.error error, last, remembered), events⟩)
    (left index : Nat) :
    (printRecords source (left + 1) index cursor memory).run? =
      some ⟨errorOutcome index error, events⟩ := by
  rw [printRecords, Course.run?_bind, comes, Option.bind_some]
  cases error <;> exact congrArg some (congrArg (Logged.mk _) (List.append_nil _))

/-- Records are printed one after the other, and the printing goes on behind them. -/
theorem run?_printRecords_of_records
    (answers : cursor.Answers source memory (records.map .ok) events last remembered)
    (left index : Nat) :
    (printRecords source (records.length + left) index cursor memory).run? =
      (printRecords source left (index + records.length) last remembered).run?.map fun run =>
        ⟨⟨recordLines index records ++ run.value.printed, run.value.error⟩,
          events ++ run.events⟩ := by
  induction records generalizing cursor memory events index with
  | nil =>
    obtain ⟨rfl, rfl, rfl⟩ := Cursor.answers_nil_iff.mp answers
    simp [recordLines]
  | cons record records inductionHypothesis =>
    obtain ⟨next, further, before, behind, isNext, others, rfl⟩ :=
      Cursor.answers_cons_iff.mp answers
    rw [List.length_cons, Nat.add_right_comm, run?_printRecords_of_ok isNext,
      inductionHypothesis others, Option.map_map, Nat.add_right_comm, Nat.add_assoc]
    congr 1
    funext run
    simp [recordLines]

/-- The whole command, from the printing of records that come first to whatever is behind them. -/
theorem run?_streamRecords_of_records
    {set : ValidationSet}
    (answers : (Cursor.new set).Answers source memory (records.map .ok) events last remembered)
    (left : Nat) :
    (streamRecords set source memory (records.length + left)).run? =
      (printRecords source left records.length last remembered).run?.map fun run =>
        ⟨⟨headLine set :: recordLines 0 records ++ run.value.printed, run.value.error⟩,
          events ++ run.events⟩ := by
  rw [streamRecords, Course.run?_bind, run?_printRecords_of_records answers, Nat.zero_add]
  cases (printRecords source left records.length last remembered).run? with
  | none => rfl
  | some run => simp [Outcome.after, headLine]

/-- As many records as the command was told to print. -/
theorem run?_streamRecords_of_full
    {set : ValidationSet}
    (answers : (Cursor.new set).Answers source memory (records.map .ok) events last remembered) :
    (streamRecords set source memory records.length).run? =
      some ⟨.lines (headLine set :: recordLines 0 records), events⟩ := by
  have whole := run?_streamRecords_of_records answers 0
  rw [Nat.add_zero] at whole
  rw [whole]
  simp [printRecords, Outcome.lines]

/-- Fewer records than the command was told to print, and an error behind them. -/
theorem run?_streamRecords_of_error
    {set : ValidationSet}
    {error : DatasetError}
    (answers : (Cursor.new set).Answers source memory (records.map .ok ++ [.error error]) events
      last remembered)
    {count : Nat}
    (fewer : records.length < count) :
    (streamRecords set source memory count).run? =
      some ⟨⟨headLine set :: recordLines 0 records ++ (errorOutcome records.length error).printed,
        (errorOutcome records.length error).error⟩, events⟩ := by
  obtain ⟨left, rfl⟩ := Nat.exists_eq_add_of_lt fewer
  obtain ⟨middle, further, before, behind, first, second, rfl⟩ := answers.split
  obtain ⟨next, rest, happened, nothing, isNext, none, rfl⟩ := Cursor.answers_cons_iff.mp second
  obtain ⟨rfl, rfl, rfl⟩ := Cursor.answers_nil_iff.mp none
  rw [Nat.add_assoc, run?_streamRecords_of_records first, run?_printRecords_of_error isNext]
  simp

end Printing

/-! ## The first records -/

/-- Results begin with records, up to a count or to whatever comes in place of a further record. -/
theorem exists_first_records (count : Nat) (results : List RecordResult) :
    ∃ (records : List Record) (behind : List RecordResult),
      results = records.map .ok ++ behind ∧
      records.length ≤ count ∧
      (records.length = count ∨ ∀ record, behind.head? ≠ some (.ok record)) := by
  induction count generalizing results with
  | zero => exact ⟨[], results, rfl, Nat.le_refl 0, .inl rfl⟩
  | succ count inductionHypothesis =>
    rcases results with _ | ⟨error | record, results⟩
    · exact ⟨[], [], rfl, Nat.zero_le _, .inr fun record => by simp⟩
    · exact ⟨[], .error error :: results, rfl, Nat.zero_le _, .inr fun record => by simp⟩
    · obtain ⟨records, behind, rfl, most, stops⟩ := inductionHypothesis results
      exact ⟨record :: records, behind, rfl, Nat.succ_le_succ most,
        stops.imp_left (congrArg Nat.succ)⟩

/-- What the command comes to if results begin with records, and others are behind these. -/
structure Prints
    (set : ValidationSet)
    (count : Nat)
    (records : List Record)
    (behind : List RecordResult)
    (outcome : Outcome) : Prop where
  full : records.length = count → outcome = .lines (headLine set :: recordLines 0 records)
  ended : records.length < count → behind = [] →
    outcome = .lines (headLine set :: recordLines 0 records ++ [endLine records.length])
  failed : ∀ error, records.length < count → behind.head? = some (.error error) →
    outcome = ⟨headLine set :: recordLines 0 records, some (.dataset error)⟩

/-- The results that the command requests: those of the records, and the next unless there are
records enough. -/
def requested (count : Nat) (records : List Record) (behind : List RecordResult) :
    List RecordResult :=
  List.take (min count (records.length + 1)) (records.map .ok ++ behind ++ [.error .exhausted])

section Requested

variable {set : ValidationSet} {count : Nat} {records : List Record} {behind : List RecordResult}

theorem requested_of_full (full : records.length = count) :
    requested count records behind = records.map .ok := by
  rw [requested, full, Nat.min_eq_left (Nat.le_succ count), List.append_assoc]
  exact List.take_left' (by rw [List.length_map, full])

theorem requested_of_fewer
    (fewer : records.length < count)
    {result : RecordResult}
    {others : List RecordResult}
    (next : behind ++ [.error .exhausted] = result :: others) :
    requested count records behind = records.map .ok ++ [result] := by
  rw [requested, Nat.min_eq_right fewer, List.append_assoc, next, List.append_cons]
  exact List.take_left' (by rw [List.length_append, List.length_map]; rfl)

/-- Nothing is requested behind an error. -/
theorem exists_requested_eq_cons
    (positive : 0 < count)
    (records : List Record)
    (behind : List RecordResult) :
    ∃ result others,
      requested count records behind = result :: others ∧
      (others = [] ∨ ∃ record, result = .ok record) := by
  obtain ⟨count, rfl⟩ := Nat.exists_eq_add_one.mpr positive
  rw [requested, Nat.add_min_add_right]
  cases records with
  | nil =>
    rw [List.length_nil, Nat.min_zero]
    cases behind with
    | nil => exact ⟨_, [], rfl, .inl rfl⟩
    | cons result others => exact ⟨result, [], rfl, .inl rfl⟩
  | cons record records => exact ⟨.ok record, _, rfl, .inr ⟨record, rfl⟩⟩

/-- What the command comes to is the same for all sources that answer its requests alike. -/
theorem exists_outcome
    (set : ValidationSet)
    (noEnd : .error .exhausted ∉ behind)
    (most : records.length ≤ count)
    (stops : records.length = count ∨ ∀ record, behind.head? ≠ some (.ok record)) :
    ∃ outcome,
      Prints set count records behind outcome ∧
      ∀ (source : Source τ σ) memory happened last remembered,
        (Cursor.new set).Answers source memory (requested count records behind) happened last
          remembered →
        (streamRecords set source memory count).run? = some ⟨outcome, happened⟩ := by
  rcases most.eq_or_lt with full | fewer
  · refine ⟨.lines (headLine set :: recordLines 0 records), ?_, ?_⟩
    · exact ⟨fun _ => rfl, fun fewer => absurd full fewer.ne, fun _ fewer => absurd full fewer.ne⟩
    · intro source memory happened last remembered answers
      rw [requested_of_full full] at answers
      rw [← full]
      exact run?_streamRecords_of_full answers
  · have unfilled := stops.resolve_left fewer.ne
    obtain ⟨error, others, next⟩ :
        ∃ error others, behind ++ [.error .exhausted] = .error error :: others := by
      rcases behind with _ | ⟨error | record, others⟩
      · exact ⟨.exhausted, [], rfl⟩
      · exact ⟨error, others ++ [.error .exhausted], rfl⟩
      · exact absurd rfl (unfilled record)
    refine ⟨⟨headLine set :: recordLines 0 records ++ (errorOutcome records.length error).printed,
      (errorOutcome records.length error).error⟩, ⟨?_, ?_, ?_⟩, ?_⟩
    · exact fun full => absurd full fewer.ne
    · rintro - rfl
      cases next
      rfl
    · rintro other - isFirst
      obtain ⟨rest, rfl⟩ := List.head?_eq_some_iff.mp isFirst
      cases next
      rw [errorOutcome_of_ne fun isEnd => noEnd (isEnd ▸ List.mem_cons_self)]
      simp [Outcome.failed]
    · intro source memory happened last remembered answers
      rw [requested_of_fewer fewer next] at answers
      exact run?_streamRecords_of_error answers fewer

end Requested

/-- The command prints the first records of a set. Let requests of a cursor have some results and
tell the end of the stream behind them. The results begin with records, up to the count or to
the first that is none. Each of these records is printed on a line with its number. If there are as
many as the count, that is all; if there are fewer, either the end of the stream is told with their
number, or the command fails with the error that comes next.

The command requests these records and the result behind them, unless they are enough, and makes no
other requests: with every source that answers these requests alike it comes to the same. No request
is made for a count of zero. For any other the source is opened once, before all that it is asked
for items. -/
theorem streamRecords_prints_first_records
    {set : ValidationSet}
    {source : Source τ σ}
    {memory remembered : τ}
    {results : List RecordResult}
    {events : List Event}
    {last : Cursor σ}
    (answers : (Cursor.new set).Answers source memory (results ++ [.error .exhausted]) events last
      remembered)
    (noEnd : .error .exhausted ∉ results)
    (count : Nat) :
    ∃ (records : List Record) (behind : List RecordResult) (outcome : Outcome)
        (happened : List Event),
      results = records.map .ok ++ behind ∧
      records.length ≤ count ∧
      (records.length = count ∨ ∀ record, behind.head? ≠ some (.ok record)) ∧
      (streamRecords set source memory count).run? = some ⟨outcome, happened⟩ ∧
      Prints set count records behind outcome ∧
      (requested count records behind).length ≤ count ∧
      (∀ (other : Source τ σ) memory happened last remembered,
        (Cursor.new set).Answers other memory (requested count records behind) happened last
          remembered →
        (streamRecords set other memory count).run? = some ⟨outcome, happened⟩) ∧
      (count = 0 → happened = []) ∧
      (0 < count → ∃ pulled,
        happened = (set.openWith source memory).events ++ pulled ∧ Cursor.Pulled source pulled) := by
  obtain ⟨records, behind, rfl, most, stops⟩ := exists_first_records count results
  have noEndBehind : .error .exhausted ∉ behind :=
    fun among => noEnd (List.mem_append_right _ among)
  obtain ⟨outcome, prints, comes⟩ := exists_outcome set noEndBehind most stops
  have cut : records.map .ok ++ behind ++ [.error .exhausted] = requested count records behind ++
      List.drop (min count (records.length + 1)) _ := (List.take_append_drop _ _).symm
  rw [cut] at answers
  obtain ⟨middle, further, happened, _, asked, -, -⟩ := answers.split
  refine ⟨records, behind, outcome, happened, rfl, most, stops, comes _ _ _ _ _ asked, prints, ?_,
    comes, ?_, ?_⟩
  · exact (List.length_take_le _ _).trans (Nat.min_le_left _ _)
  · rintro rfl
    rw [requested, Nat.zero_min, List.take_zero] at asked
    exact (Cursor.answers_nil_iff.mp asked).1
  · intro positive
    obtain ⟨result, others, same, goesOn⟩ := exists_requested_eq_cons positive records behind
    rw [same] at asked
    exact asked.opens_of_new goesOn

/-- Two rows, of which the second is no question. -/
def questionAndNull : List ItemResult :=
  [.ok (.row (.object [("question", .string "Why?"), ("context", .string "abc")])),
    .ok (.row .null)]

/-- The one question is printed, and then the command fails with the error of the other row. -/
theorem streamRecords_fails_at_null :
    ∃ happened,
      (streamRecords ⟨.squadHub, "squad"⟩ (Cursor.prepared fun _ => .ok questionAndNull) 0 10).run? =
        some ⟨⟨["squad-hf from squad", "     0  \"Why?\" (3 characters of context)"],
          some (.dataset (.malformedRecord "squad-hf" (.missingString "context")))⟩, happened⟩ := by
  have opened :
      (ValidationSet.openWith ⟨.squadHub, "squad"⟩ (Cursor.prepared fun _ => .ok questionAndNull)
        0).value = (.ok (.new .squadHub ⟨questionAndNull, 0, 0⟩), 1) := rfl
  have brings := Source.brings_scripted (fun _ => .ok questionAndNull) questionAndNull
  have owes : (RecordStream.new .squadHub ⟨questionAndNull, 0, 0⟩).Owes
      (Cursor.prepared fun _ => .ok questionAndNull)
      (questionAndNull.flatMap SetKind.squadHub.results) := .streaming (brings.counting 0 0) rfl
  have quoted : Text.quoted "Why?" = "\"Why?\"" := by
    rw [Text.quoted, String.foldl_eq_foldl_toList]
    decide +kernel
  have lines : headLine ⟨.squadHub, "squad"⟩ :: recordLines 0 [.question ⟨"abc", "Why?"⟩] =
      ["squad-hf from squad", "     0  \"Why?\" (3 characters of context)"] := by
    change [_, _ ++ (Text.quoted "Why?" ++ _)] = _
    rw [quoted]
    decide +kernel
  have results : questionAndNull.flatMap SetKind.squadHub.results =
      [.ok (.question ⟨"abc", "Why?"⟩),
        .error (.malformedRecord "squad-hf" (.missingString "context"))] := by
    rfl
  rw [results] at owes
  obtain ⟨_, _, answers⟩ := Cursor.answers_of_opened opened owes
  obtain ⟨records, behind, outcome, happened, split, -, stops, comes, prints, -⟩ :=
    streamRecords_prints_first_records answers (by simp) 10
  rcases records with _ | ⟨first, _ | ⟨second, others⟩⟩
  · cases split
    exact absurd rfl (stops.resolve_left (by decide) _)
  · cases split
    rw [prints.failed _ (by decide) rfl, lines] at comes
    exact ⟨happened, comes⟩
  · cases split

end Command
end Holdout
