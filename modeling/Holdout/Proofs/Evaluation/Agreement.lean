import Holdout.Proofs.Evaluation.Pass
import Holdout.Proofs.Reading

/-!
# What evaluations have in common

An evaluation comes to an outcome and leaves its engine in a state. Both depend on the opened
stream only through the pass over it, so evaluations of one set over different sources are compared
by comparing passes.
-/

namespace Holdout

/-- What a pass comes to: its outcome, and where it leaves the engine. -/
def Progress.result (progress : Progress ε) : Except EvalError Tally × ε :=
  (progress.outcome, progress.engine)

/-- What an evaluation comes to, apart from where it leaves the stream. -/
def Evaluation.result (evaluation : Evaluation ε σ) : Except EvalError Tally × ε :=
  (evaluation.outcome, evaluation.engine)

/-- A pass that succeeds has not failed. -/
theorem Progress.error_of_outcome
    {progress : Progress ε}
    {tally : Tally}
    (succeeded : progress.outcome = .ok tally) :
    progress.error = none := by
  cases failed : progress.error with
  | none => rfl
  | some error =>
    simp only [outcome, failed] at succeeded
    cases succeeded

namespace Trial

/-- Where a pass stands after further results. -/
def through (trial : Trial ε) (results : List RecordResult) (progress : Progress ε) :
    Progress ε :=
  (RecordStream.feedPending trial.wants trial.take results progress).value.1

@[simp] theorem through_nil (trial : Trial ε) (progress : Progress ε) :
    trial.through [] progress = progress := rfl

theorem through_cons_of_wants
    {trial : Trial ε}
    {progress : Progress ε}
    (wanted : trial.wants progress = true)
    (result : RecordResult)
    (rest : List RecordResult) :
    trial.through (result :: rest) progress =
      trial.through rest (trial.take progress result).value :=
  congrArg Prod.fst (RecordStream.feedPending_cons_of_wants wanted result rest)

theorem through_of_satisfied
    {trial : Trial ε}
    {progress : Progress ε}
    (satisfied : trial.wants progress = false)
    (results : List RecordResult) :
    trial.through results progress = progress :=
  congrArg Prod.fst (RecordStream.feedPending_of_satisfied satisfied results)

/-- Without a limit a pass goes on until something has failed. -/
theorem wants_of_no_limit
    {trial : Trial ε}
    (noLimit : trial.options.limit = none)
    (progress : Progress ε) :
    trial.wants progress = progress.error.isNone := by
  rw [wants, noLimit]
  exact Bool.and_true _

/-- The pass of a trial over a stream that has been opened. -/
def reading (trial : Trial ε) (source : Source τ σ) (opened : σ) (state : ε) :
    Reading τ σ (Progress ε) :=
  ⟨source, trial.kind, trial.wants, trial.take, opened, trial.outset state⟩

end Trial

section Evaluate

variable {set : ValidationSet} {source : Source τ σ} {memory : τ} {engine : Engine ε} {state : ε}
  {preprocessor : Preprocessor} {options : EvalOptions}

/-- An evaluation comes to what its pass comes to, if there is one. -/
theorem evaluate_result :
    (evaluate set source memory engine state preprocessor options).run?.map
        (fun run => run.value.result) =
      match (source.openStream memory set.request).value.1 with
      | .error cause =>
        some (.error (.dataset (.sourceUnavailable set.locator cause)), state)
      | .ok opened =>
        ((set.trial engine preprocessor options).reading source opened state).run?.map
          fun run => run.value.1.result := by
  have value := congrArg (Option.map Evaluation.result)
    (@evaluate_value _ _ _ set source memory engine state preprocessor options)
  rw [Option.map_map] at value
  refine value.trans ?_
  cases (source.openStream memory set.request).value.1 with
  | error cause => rfl
  | ok opened => exact Option.map_map ..

theorem openStream_counting (source : Source τ σ) (memory : τ) (request : LoadRequest) :
    (source.counting.openStream memory request).value.1 =
      (source.openStream memory request).value.1.map (⟨·, 0, 0⟩) := rfl

/-- Counting what is asked of a source does not change what an evaluation comes to. -/
theorem evaluate_counting :
    (evaluate set source memory engine state preprocessor options).run?.map
        (fun run => run.value.result) =
      (evaluate set source.counting memory engine state preprocessor options).run?.map
        fun run => run.value.result := by
  rw [evaluate_result, evaluate_result, openStream_counting]
  cases (source.openStream memory set.request).value.1 with
  | error cause => rfl
  | ok opened =>
    exact ((set.trial engine preprocessor options).reading source opened state).map_run?_counting
      Progress.result

/-- What an evaluation that succeeds has asked of its source: the items that its pass needs, and
once more if it has been told that there are no others. -/
theorem counted_of_evaluate
    {run : Logged (Evaluation ε σ)}
    {tally : Tally}
    (comes : (evaluate set source memory engine state preprocessor options).run? = some run)
    (succeeded : run.value.outcome = .ok tally) :
    ∃ opened reading counted stream items stand,
      (source.openStream memory set.request).value.1 = .ok opened ∧
      reading = (set.trial engine preprocessor options).reading source opened state ∧
      (evaluate set source.counting memory engine state preprocessor options).run? =
        some counted ∧
      counted.value.outcome = .ok tally ∧
      counted.value.stream = some stream ∧
      reading.Suffices items stand ∧
      (reading.after items).error = none ∧
      stream.items.brought = items.length ∧
      ((reading.wants (reading.after items) = false ∧ stream.items.asked = items.length) ∨
      (reading.wants (reading.after items) = true ∧ source.Ends stand ∧
        stream.items.asked = items.length + 1)) := by
  have same := @evaluate_counting _ _ _ set source memory engine state preprocessor options
  rw [comes, Option.map_some] at same
  obtain ⟨counted, isCounted, equal⟩ := Option.map_eq_some_iff.mp same.symm
  have succeededToo : counted.value.outcome = .ok tally :=
    (congrArg Prod.fst equal).trans succeeded
  rcases evaluate_cases isCounted with ⟨cause, -, value⟩ | ⟨place, fed, isPlace, isFed, value⟩
  · rw [value] at succeededToo
    cases succeededToo
  · rw [openStream_counting] at isPlace
    cases isOpened : (source.openStream memory set.request).value.1 with
    | error cause =>
      rw [isOpened] at isPlace
      cases isPlace
    | ok opened =>
      rw [isOpened] at isPlace
      have start : ⟨opened, 0, 0⟩ = place := Except.ok.inj isPlace
      rw [← start] at isFed
      obtain ⟨items, stand, sufficient, reached, brought, asked⟩ :=
        @Reading.counted_of_run? _ _ _
          ((set.trial engine preprocessor options).reading source opened state) fed isFed
      have noError : fed.value.1.error = none := by
        rw [value] at succeededToo
        exact Progress.error_of_outcome succeededToo
      rw [reached] at noError
      exact ⟨opened, _, counted, fed.value.2, items, stand, rfl, rfl, isCounted, succeededToo,
        congrArg Evaluation.stream value, sufficient, noError, brought, asked⟩

end Evaluate

/-- An engine without inputs and outputs that counts its runs. -/
def idle : Engine Nat where
  inputs := []
  outputs := []
  run count _ := (.ok NameMap.empty, count + 1)

/-- A preprocessor that makes nothing of a question. -/
def wordlessness : Preprocessor := .text fun _ _ _ => .ok NameMap.empty

end Holdout
