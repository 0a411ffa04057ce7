import Mathlib.Data.List.DropRight
import Holdout.Cursor
import Holdout.Proofs.Dataset
import Holdout.Proofs.RecordStream

/-!
# Calls of a cursor

Requests and resets in any order, made of a cursor on a source that has an outcome prepared for
each opening. What a cursor does next depends on its state alone: it opens its set if it has no
pass, it goes on with a pass that has not ended, and it stays at the end of one that has. The state
after any calls shows in what the calls since the last reset have answered.
-/

namespace Holdout

/-- What can be asked of a cursor. -/
inductive Call
  | next
  | reset
  deriving DecidableEq, Repr

namespace Cursor

/-- One call of a cursor and its answer; a reset has none. -/
def call (source : Source τ σ) (memory : τ) (cursor : Cursor σ) :
    Call → Course (Option RecordResult × Cursor σ × τ)
  | .next => do
    let (result, cursor, memory) ← cursor.next source memory
    return (some result, cursor, memory)
  | .reset => return (none, cursor.reset, memory)

/-- Calls one after the other, with their answers. -/
def calls (source : Source τ σ) :
    List Call → τ → Cursor σ → Course (List (Option RecordResult) × Cursor σ × τ)
  | [], memory, cursor => return ([], cursor, memory)
  | first :: rest, memory, cursor => do
    let (answer, cursor, memory) ← cursor.call source memory first
    let (answers, cursor, memory) ← calls source rest memory cursor
    return (answer :: answers, cursor, memory)

/-- The end of the pass has been told since the last reset. -/
def ToldEnd (answers : List (Option RecordResult)) : Prop :=
  some (.error .exhausted) ∈ answers.rtakeWhile Option.isSome

theorem toldEnd_next (answers : List (Option RecordResult)) (result : RecordResult) :
    ToldEnd (answers ++ [some result]) ↔ ToldEnd answers ∨ result = .error .exhausted := by
  rw [ToldEnd, List.rtakeWhile_concat_pos _ _ _ rfl, List.mem_append, List.mem_singleton,
    Option.some_inj, eq_comm (b := result)]
  rfl

theorem not_toldEnd_reset (answers : List (Option RecordResult)) :
    ¬ToldEnd (answers ++ [none]) := by
  rw [ToldEnd, List.rtakeWhile_concat_neg _ _ _ Bool.false_ne_true]
  exact List.not_mem_nil

section Calls

variable {source : Source τ σ} {memory : τ} {cursor : Cursor σ}

theorem run?_call_next :
    (cursor.call source memory .next).run? =
      (cursor.next source memory).run?.map fun run =>
        ⟨(some run.value.1, run.value.2), run.events⟩ := by
  rw [call, Course.run?_bind, Option.map_eq_bind]
  congr 1
  funext run
  exact congrArg some (congrArg (Logged.mk _) (List.append_nil _))

theorem run?_calls_cons (first : Call) (rest : List Call) :
    (calls source (first :: rest) memory cursor).run? =
      (cursor.call source memory first).run?.bind fun one =>
        (calls source rest one.value.2.2 one.value.2.1).run?.map fun others =>
          ⟨(one.value.1 :: others.value.1, others.value.2), one.events ++ others.events⟩ := by
  rw [calls, Course.run?_bind]
  congr 1
  funext one
  rw [Course.run?_bind, Option.map_bind, Option.map_eq_bind]
  congr 1
  funext others
  simp

/-- One call more. -/
theorem run?_calls_concat
    {earlier : List Call}
    {before : Logged (List (Option RecordResult) × Cursor σ × τ)}
    (come : (calls source earlier memory cursor).run? = some before)
    {last : Call}
    {after : Logged (Option RecordResult × Cursor σ × τ)}
    (comes : (before.value.2.1.call source before.value.2.2 last).run? = some after) :
    (calls source (earlier ++ [last]) memory cursor).run? =
      some ⟨(before.value.1 ++ [after.value.1], after.value.2), before.events ++ after.events⟩ := by
  induction earlier generalizing memory cursor before with
  | nil =>
    rw [calls, Course.run?_pure, Option.some.injEq] at come
    rw [← come] at comes ⊢
    have single : (cursor.call source memory last).run? = some after := comes
    rw [List.nil_append, run?_calls_cons, single]
    simp [calls]
  | cons first rest inductionHypothesis =>
    rw [run?_calls_cons, Option.bind_eq_some_iff] at come
    obtain ⟨one, isOne, mapped⟩ := come
    obtain ⟨others, areOthers, same⟩ := Option.map_eq_some_iff.mp mapped
    rw [← same] at comes ⊢
    rw [List.cons_append, run?_calls_cons, isOne, Option.bind_some,
      inductionHypothesis areOthers comes]
    simp

end Calls

theorem state_eq_uninitialized_iff {cursor : Cursor σ} :
    cursor.state = .uninitialized ↔ cursor.stream = none := by
  obtain ⟨set, stream⟩ := cursor
  cases stream with
  | none => exact iff_of_true rfl rfl
  | some stream =>
    cases isState : stream.state with
    | streaming => simp [state, isState]
    | exhausted => simp [state, isState]

theorem state_eq_exhausted_iff {cursor : Cursor σ} {stream : RecordStream σ}
    (pass : cursor.stream = some stream) :
    cursor.state = .exhausted ↔ stream.state = .exhausted := by
  rw [state, pass]
  cases isState : stream.state with
  | streaming => simp [isState]
  | exhausted => simp [isState]

theorem state_eq_streaming_iff {cursor : Cursor σ} {stream : RecordStream σ}
    (pass : cursor.stream = some stream) :
    cursor.state = .streaming ↔ stream.state ≠ .exhausted := by
  rw [state, pass]
  cases isState : stream.state with
  | streaming => simp [isState]
  | exhausted => simp [isState]

section Pass

variable {source : Source τ σ} {memory : τ} {cursor : Cursor σ} {stream : RecordStream σ}

/-- A request of a cursor with a pass is a request of the pass. -/
theorem run?_next_of_pass (pass : cursor.stream = some stream) :
    (cursor.next source memory).run? =
      (stream.next source).run?.map fun run =>
        ⟨(run.value.1, ⟨cursor.set, some run.value.2⟩, memory), run.events⟩ := by
  rw [next, Course.run?_bind, Course.run?_lift, Option.bind_some, enter, pass]
  simp only [Logged.value_pure]
  rw [Course.run?_bind, Option.map_bind, Option.map_eq_bind]
  congr 1
  funext run
  simp

/-- A request without a pass is a request of the pass that is opened for it. -/
theorem run?_next_of_openWith
    (noPass : cursor.stream = none)
    {after : τ}
    (opened : (cursor.set.openWith source memory).value = (.ok stream, after)) :
    (cursor.next source memory).run? =
      (Cursor.next source after ⟨cursor.set, some stream⟩).run?.map fun run =>
        ⟨run.value, (cursor.set.openWith source memory).events ++ run.events⟩ := by
  have begun : (⟨cursor.set, some stream⟩ : Cursor σ).stream = some stream := rfl
  rw [run?_next_of_pass begun, next, enter, noPass, Course.run?_bind, Course.run?_lift,
    Option.bind_some, opened]
  simp only
  rw [Course.run?_bind, Option.map_bind, Option.map_map, Option.map_eq_bind]
  congr 1
  funext run
  simp

/-- At the end of a pass nothing happens. -/
theorem run?_next_of_exhausted (exhausted : cursor.state = .exhausted) :
    (cursor.next source memory).run? = some ⟨(.error .exhausted, cursor, memory), []⟩ := by
  obtain ⟨set, stream⟩ := cursor
  cases stream with
  | none => cases exhausted
  | some stream =>
    rw [state_eq_exhausted_iff rfl] at exhausted
    rw [run?_next_of_pass rfl, RecordStream.next_of_exhausted exhausted]
    rfl

/-- A pass hands over what it owes, and the end of the pass is told behind that. -/
theorem calls_next_of_owes
    (set : ValidationSet)
    {results : List RecordResult}
    (owes : stream.Owes source results)
    (pulling : ∀ place, ∀ event ∈ (source.pull place).events, event = .pulled)
    (memory : τ)
    (count : Nat) :
    ∃ run pass,
      (calls source (List.replicate count .next) memory ⟨set, some stream⟩).run? = some run ∧
      run.value =
        ((List.range count).map fun place => some (results.getD place (.error .exhausted)),
          ⟨set, some pass⟩, memory) ∧
      (∀ event ∈ run.events, event = .pulled) ∧
      (pass.state = .exhausted ↔ stream.state = .exhausted ∨ results.length < count) := by
  induction count generalizing stream results with
  | zero => exact ⟨_, stream, rfl, rfl, List.forall_mem_nil _, by simp⟩
  | succ count inductionHypothesis =>
    obtain ⟨one, isOne, first, others, -, ended⟩ := RecordStream.next_of_owes owes
    obtain ⟨run, pass, isRun, value, pulledAfter, endedAfter⟩ := inductionHypothesis others
    have pulled := RecordStream.events_of_next pulling isOne
    refine ⟨⟨(some one.value.1 :: run.value.1, run.value.2), one.events ++ run.events⟩, pass,
      ?_, ?_, List.forall_mem_append.mpr ⟨pulled, pulledAfter⟩, ?_⟩
    · rw [List.replicate_succ, run?_calls_cons, run?_call_next, run?_next_of_pass rfl, isOne,
        Option.map_some, Option.map_some, Option.bind_some, isRun]
      rfl
    · rw [value, first, List.range_succ_eq_map, List.map_cons, List.map_map, Prod.mk.injEq,
        List.cons.injEq]
      refine ⟨⟨by rw [List.headD_eq_getD], ?_⟩, rfl⟩
      apply List.map_congr_left
      intro place _
      simp
    · rw [endedAfter, ended, List.length_tail, ← List.length_eq_zero_iff]
      by_cases exhausted : stream.state = .exhausted
      · rw [owes.eq_nil_of_exhausted exhausted]
        simp [exhausted]
      · simp only [exhausted, false_or]
        omega

end Pass

/-- Where calls have left a cursor: without a pass, or in a pass that will end. -/
structure Stands
    (source : Source τ σ)
    (set : ValidationSet)
    (answers : List (Option RecordResult))
    (cursor : Cursor σ) : Prop where
  set_eq : cursor.set = set
  /-- The end of the pass is not among the results that it still owes. -/
  owes : ∀ stream, cursor.stream = some stream →
    ∃ results, stream.Owes source results ∧ .error .exhausted ∉ results
  told : cursor.state = .exhausted ↔ ToldEnd answers

/-- The requests that a source was opened for. -/
def requests (events : List Event) : List LoadRequest :=
  events.filterMap fun
    | .opened request => some request
    | _ => none

@[simp] theorem requests_append (first second : List Event) :
    requests (first ++ second) = requests first ++ requests second :=
  List.filterMap_append

theorem requests_of_pulled {events : List Event} (pulled : ∀ event ∈ events, event = .pulled) :
    requests events = [] := by
  apply List.filterMap_eq_nil_iff.mpr
  intro event happened
  rw [pulled event happened]

section Standing

variable {source : Source τ σ} {set : ValidationSet} {answers : List (Option RecordResult)}
  {cursor : Cursor σ}

theorem Stands.new (set : ValidationSet) :
    Stands source set [] (Cursor.new set) where
  set_eq := rfl
  owes _ none := by cases none
  told := iff_of_false CursorState.noConfusion List.not_mem_nil

theorem Stands.reset (stands : Stands source set answers cursor) :
    Stands source set (answers ++ [none]) cursor.reset where
  set_eq := stands.set_eq
  owes _ none := by cases none
  told := iff_of_false CursorState.noConfusion (not_toldEnd_reset answers)

/-- A request of a pass goes on with the pass, and the source is not opened. -/
theorem Stands.next_of_pass
    (stands : Stands source set answers cursor)
    {stream : RecordStream σ}
    (pass : cursor.stream = some stream)
    (pulling : ∀ place, ∀ event ∈ (source.pull place).events, event = .pulled)
    (memory : τ) :
    ∃ after,
      (cursor.next source memory).run? = some after ∧
      Stands source set (answers ++ [some after.value.1]) after.value.2.1 ∧
      after.value.2.2 = memory ∧
      requests after.events = [] := by
  obtain ⟨results, owes, noEnd⟩ := stands.owes stream pass
  obtain ⟨run, isRun, first, others, -, ended⟩ := RecordStream.next_of_owes owes
  refine ⟨⟨(run.value.1, ⟨cursor.set, some run.value.2⟩, memory), run.events⟩, ?_, ?_, rfl, ?_⟩
  · rw [run?_next_of_pass pass, isRun]
    rfl
  · constructor
    case set_eq => exact stands.set_eq
    case owes =>
      intro stream same
      rw [← Option.some.inj same]
      exact ⟨results.tail, others, fun told => noEnd (List.mem_of_mem_tail told)⟩
    case told =>
      rw [state_eq_exhausted_iff rfl, toldEnd_next, ended, first, ← stands.told,
        state_eq_exhausted_iff pass]
      -- The end is told if it has been told before, or if nothing is owed.
      cases results with
      | nil => simp
      | cons result rest =>
        have unended : stream.state ≠ .exhausted := by
          intro exhausted
          cases owes.eq_nil_of_exhausted exhausted
        rw [List.mem_cons, not_or] at noEnd
        simp [unended, Ne.symm noEnd.1]
  · exact requests_of_pulled (RecordStream.events_of_next pulling isRun)

/-- A set that does not open leaves the cursor where it stands. -/
theorem Stands.unopened
    (stands : Stands source set answers cursor)
    (noPass : cursor.stream = none)
    (locator : String)
    (cause : Failure) :
    Stands source set (answers ++ [some (.error (.sourceUnavailable locator cause))]) cursor where
  set_eq := stands.set_eq
  owes stream pass := by
    rw [noPass] at pass
    cases pass
  told := by
    rw [toldEnd_next, stands.told]
    simp

end Standing

section Prepared

/-- A source with an outcome for each opening, whose streams count what they are asked. -/
abbrev prepared (outcome : Nat → Except Failure (List ItemResult)) :
    Source Nat (Source.Counted (List ItemResult)) :=
  (Source.scripted outcome).counting

variable {outcome : Nat → Except Failure (List ItemResult)} {set : ValidationSet}
  {answers : List (Option RecordResult)} {cursor : Cursor (Source.Counted (List ItemResult))}
  {opens : Nat}

/-- What happens when a set is opened. -/
def opening (set : ValidationSet) : List Event :=
  [.loading set.name set.locator, .opened set.request]

theorem requests_opening (set : ValidationSet) : requests (opening set) = [set.request] := rfl

/-- A cursor at the beginning of a pass over items. -/
def begun (set : ValidationSet) (items : List ItemResult) :
    Cursor (Source.Counted (List ItemResult)) :=
  ⟨set, some (.new set.kind ⟨items, 0, 0⟩)⟩

/-- Opening a set takes the next of the outcomes. -/
theorem openWith_prepared (set : ValidationSet) (opens : Nat) :
    set.openWith (prepared outcome) opens =
      ⟨(match outcome opens with
        | .ok items => .ok (.new set.kind ⟨items, 0, 0⟩)
        | .error cause => .error (.sourceUnavailable set.locator cause), opens + 1),
        opening set⟩ := by
  have opened : (prepared outcome).openStream opens set.request =
      ⟨((outcome opens).map (⟨·, 0, 0⟩), opens + 1), [.opened set.request]⟩ := rfl
  cases prepares : outcome opens with
  | error cause =>
    rw [prepares] at opened
    simp [ValidationSet.openWith, opened, bind, Logged.andThen, Logged.note, opening, Except.map]
  | ok items =>
    rw [prepares] at opened
    simp [ValidationSet.openWith, opened, bind, Logged.andThen, Logged.note, opening, Except.map]

/-- A set that does not open leaves the cursor without a pass. -/
theorem run?_next_of_unopened
    (noPass : cursor.stream = none)
    {cause : Failure}
    (fails : outcome opens = .error cause) :
    (cursor.next (prepared outcome) opens).run? =
      some ⟨(.error (.sourceUnavailable cursor.set.locator cause), cursor, opens + 1),
        opening cursor.set⟩ := by
  obtain ⟨set, stream⟩ := cursor
  change stream = none at noPass
  rw [noPass, next, enter, openWith_prepared, fails, Course.run?_bind, Course.run?_lift]
  rfl

/-- A request without a pass is a request of the pass that is begun for it. -/
theorem run?_next_of_opened
    (noPass : cursor.stream = none)
    {items : List ItemResult}
    (opened : outcome opens = .ok items) :
    (cursor.next (prepared outcome) opens).run? =
      ((begun cursor.set items).next (prepared outcome) (opens + 1)).run?.map fun run =>
        ⟨run.value, opening cursor.set ++ run.events⟩ := by
  have opensWith : cursor.set.openWith (prepared outcome) opens = _ :=
    openWith_prepared cursor.set opens
  rw [opened] at opensWith
  rw [run?_next_of_openWith noPass (congrArg Logged.value opensWith), opensWith, begun]

/-- A set that opens leaves the cursor at the beginning of a pass. -/
theorem Stands.begun
    (stands : Stands (prepared outcome) set answers cursor)
    (noPass : cursor.stream = none)
    (items : List ItemResult) :
    Stands (prepared outcome) set answers (begun set items) where
  set_eq := rfl
  owes stream same := by
    rw [← Option.some.inj same]
    have brings := (Source.brings_scripted outcome items).counting 0 0
    refine ⟨_, .streaming brings rfl, ?_⟩
    rw [List.nil_append, List.mem_flatMap]
    rintro ⟨item, -, told⟩
    exact set.kind.exhausted_not_mem_results item told
  told := by
    have untold : ¬ToldEnd answers := by
      rw [← stands.told, state_eq_uninitialized_iff.mpr noPass]
      exact CursorState.noConfusion
    exact iff_of_false CursorState.noConfusion untold

theorem events_pull_prepared (place : Source.Counted (List ItemResult)) :
    ∀ event ∈ ((prepared outcome).pull place).events, event = .pulled := by
  rw [Source.events_pull_counting]
  exact Source.events_pull_scripted outcome place.place

/-- A call leaves the cursor where it should stand, and the set is opened for a request without a
pass and for nothing else. -/
theorem Stands.call
    (stands : Stands (prepared outcome) set answers cursor)
    (call : Call)
    (opens : Nat) :
    ∃ after,
      (cursor.call (prepared outcome) opens call).run? = some after ∧
      Stands (prepared outcome) set (answers ++ [after.value.1]) after.value.2.1 ∧
      after.value.2.2 = opens + (requests after.events).length ∧
      requests after.events =
        if call = .next ∧ cursor.state = .uninitialized then [set.request] else [] := by
  cases call with
  | reset => exact ⟨_, rfl, stands.reset, rfl, rfl⟩
  | next =>
    rw [run?_call_next]
    cases pass : cursor.stream with
    | none =>
      rw [if_pos ⟨rfl, state_eq_uninitialized_iff.mpr pass⟩]
      cases prepares : outcome opens with
      | error cause =>
        rw [run?_next_of_unopened pass prepares, stands.set_eq]
        exact ⟨_, rfl, stands.unopened pass _ _, rfl, rfl⟩
      | ok items =>
        obtain ⟨after, comes, standsAfter, sameMemory, unopened⟩ :=
          (stands.begun pass items).next_of_pass rfl events_pull_prepared (opens + 1)
        rw [run?_next_of_opened pass prepares, stands.set_eq, comes]
        refine ⟨_, rfl, standsAfter, ?_, ?_⟩
        · simp [sameMemory, unopened, requests_opening]
        · simp [unopened, requests_opening]
    | some stream =>
      have busy : cursor.state ≠ .uninitialized := by
        rw [ne_eq, state_eq_uninitialized_iff, pass]
        exact Option.some_ne_none stream
      obtain ⟨after, comes, standsAfter, sameMemory, unopened⟩ :=
        stands.next_of_pass pass events_pull_prepared opens
      rw [comes]
      refine ⟨_, rfl, standsAfter, ?_, ?_⟩
      · simp [sameMemory, unopened]
      · simp [unopened, busy]

/-- Calls leave a new cursor where it should stand, and the source has been opened as often as it
remembers. -/
theorem stands_calls
    (outcome : Nat → Except Failure (List ItemResult))
    (set : ValidationSet)
    (earlier : List Call) :
    ∃ before,
      (calls (prepared outcome) earlier 0 (Cursor.new set)).run? = some before ∧
      Stands (prepared outcome) set before.value.1 before.value.2.1 ∧
      requests before.events = List.replicate before.value.2.2 set.request := by
  induction earlier using List.reverseRecOn with
  | nil => exact ⟨_, rfl, .new set, rfl⟩
  | append_singleton earlier last inductionHypothesis =>
    obtain ⟨before, come, stands, requested⟩ := inductionHypothesis
    obtain ⟨after, comes, standsAfter, counted, opened⟩ := stands.call last before.value.2.2
    refine ⟨_, run?_calls_concat come comes, standsAfter, ?_⟩
    rw [requests_append, requested, counted, List.replicate_add, List.append_cancel_left_eq,
      opened]
    split <;> rfl

/-- So are the calls that begin with a request without a pass. -/
theorem run?_calls_of_opened
    (noPass : cursor.stream = none)
    {items : List ItemResult}
    (opened : outcome opens = .ok items)
    (rest : List Call) :
    (calls (prepared outcome) (.next :: rest) opens cursor).run? =
      (calls (prepared outcome) (.next :: rest) (opens + 1) (begun cursor.set items)).run?.map
        fun run => ⟨run.value, opening cursor.set ++ run.events⟩ := by
  rw [run?_calls_cons, run?_calls_cons, run?_call_next, run?_call_next,
    run?_next_of_opened noPass opened, Option.map_map, Option.bind_map, Option.bind_map,
    Option.map_bind]
  congr 1
  funext one
  simp [Function.comp_def]

end Prepared

/-- Whatever has been asked of a cursor before, what it does next depends on its state, and the
state shows in the answers since the last reset.

A request without a pass opens the set once, and no other call opens it. If that fails, the error
names the place of the set and the cursor has still no pass. If it succeeds, requests are answered
with the record results of that opening and then with the end of the pass. Behind the end nothing
happens at all: the cursor is left as it was, and with it the count of what its stream was asked.
A reset drops the pass. -/
theorem calls_deliver_passes
    (outcome : Nat → Except Failure (List ItemResult))
    (set : ValidationSet)
    (earlier : List Call) :
    ∃ before answers cursor opens,
      (calls (prepared outcome) earlier 0 (Cursor.new set)).run? = some before ∧
      before.value = (answers, cursor, opens) ∧
      requests before.events = List.replicate opens set.request ∧
      (cursor.state = .exhausted ↔ ToldEnd answers) ∧
      (∀ call, ∃ after,
        (cursor.call (prepared outcome) opens call).run? = some after ∧
        requests after.events =
          if call = .next ∧ cursor.state = .uninitialized then [set.request] else []) ∧
      (∀ cause, cursor.state = .uninitialized → outcome opens = .error cause →
        (cursor.next (prepared outcome) opens).run? =
          some ⟨(.error (.sourceUnavailable set.locator cause), cursor, opens + 1),
            opening set⟩) ∧
      (∀ items, cursor.state = .uninitialized → outcome opens = .ok items → ∀ count,
        ∃ after pass,
          (calls (prepared outcome) (List.replicate (count + 1) .next) opens cursor).run? =
            some after ∧
          after.value =
            ((List.range (count + 1)).map fun place =>
              some ((items.flatMap set.kind.results).getD place (.error .exhausted)),
              pass, opens + 1) ∧
          requests after.events = [set.request] ∧
          pass.state =
            if count < (items.flatMap set.kind.results).length then .streaming
            else .exhausted) ∧
      (cursor.state = .exhausted →
        (cursor.next (prepared outcome) opens).run? =
          some ⟨(.error .exhausted, cursor, opens), []⟩) ∧
      (cursor.call (prepared outcome) opens .reset).run? =
        some ⟨(none, cursor.reset, opens), []⟩ ∧
      cursor.reset.state = .uninitialized := by
  obtain ⟨before, come, stands, requested⟩ := stands_calls outcome set earlier
  rcases value : before.value with ⟨answers, cursor, opens⟩
  rw [value] at stands requested
  refine ⟨before, answers, cursor, opens, come, value, requested, stands.told, ?_, ?_, ?_, ?_,
    rfl, rfl⟩
  · intro call
    obtain ⟨after, comes, -, -, opened⟩ := stands.call call opens
    exact ⟨after, comes, opened⟩
  · intro cause idle fails
    rw [run?_next_of_unopened (state_eq_uninitialized_iff.mp idle) fails, stands.set_eq]
  · intro items idle prepares count
    have owes : (RecordStream.new set.kind ⟨items, 0, 0⟩).Owes (prepared outcome)
        ([] ++ items.flatMap set.kind.results) :=
      .streaming ((Source.brings_scripted outcome items).counting 0 0) rfl
    obtain ⟨run, pass, isRun, answered, pulled, ended⟩ :=
      calls_next_of_owes set owes events_pull_prepared (opens + 1) (count + 1)
    refine ⟨⟨run.value, opening set ++ run.events⟩, ⟨set, some pass⟩, ?_, answered, ?_, ?_⟩
    · rw [List.replicate_succ, run?_calls_of_opened (state_eq_uninitialized_iff.mp idle) prepares,
        stands.set_eq, ← List.replicate_succ, begun, isRun]
      rfl
    · rw [requests_append, requests_of_pulled pulled, requests_opening]
      rfl
    · by_cases more : count < (items.flatMap set.kind.results).length
      · rw [if_pos more, state_eq_streaming_iff rfl, ne_eq, ended, not_or]
        exact ⟨StreamState.noConfusion, Nat.not_lt_of_le more⟩
      · rw [if_neg more, state_eq_exhausted_iff rfl, ended]
        exact Or.inr (Nat.lt_succ_of_le (Nat.le_of_not_lt more))
  · exact run?_next_of_exhausted

/-- A set that can be opened only the second time, and holds a row. -/
def secondTime : Nat → Except Failure (List ItemResult)
  | 0 => .error .noImages
  | _ => .ok [.ok (.row .null)]

/-- A request that fails leaves the set to be opened by the next one. -/
theorem calls_open_again :
    ∃ before cursor after pass,
      (calls (prepared secondTime) [.next] 0 (Cursor.new ⟨.imageNet, "images.tar"⟩)).run? =
        some before ∧
      before.value =
        ([some (.error (.sourceUnavailable "images.tar" .noImages))], cursor, 1) ∧
      (calls (prepared secondTime) [.next, .next] 1 cursor).run? = some after ∧
      after.value =
        ([some (.error (.malformedRecord "imagenet-2012-val" (.notSample "row"))),
          some (.error .exhausted)], pass, 2) ∧
      pass.state = .exhausted := by
  obtain ⟨before, answers, cursor, opens, come, value, -, -, -, -, delivers, -⟩ :=
    calls_deliver_passes secondTime ⟨.imageNet, "images.tar"⟩ [.next]
  have fails : (calls (prepared secondTime) [.next] 0
      (Cursor.new ⟨.imageNet, "images.tar"⟩)).run? =
        some ⟨([some (.error (.sourceUnavailable "images.tar" .noImages))],
          Cursor.new ⟨.imageNet, "images.tar"⟩, 1), opening ⟨.imageNet, "images.tar"⟩⟩ := rfl
  have same : before.value = ([some (.error (.sourceUnavailable "images.tar" .noImages))],
      Cursor.new ⟨.imageNet, "images.tar"⟩, 1) := by
    rw [fails, Option.some.injEq] at come
    rw [← come]
  rw [value, Prod.mk.injEq, Prod.mk.injEq] at same
  obtain ⟨isAnswers, isCursor, isOpens⟩ := same
  rw [isCursor, isOpens] at delivers
  obtain ⟨after, pass, comes, answered, -, ended⟩ :=
    delivers [.ok (.row .null)] rfl rfl 1
  rw [isAnswers, isCursor, isOpens] at value
  exact ⟨before, _, after, pass, come, value, comes, answered, ended⟩

end Cursor
end Holdout
