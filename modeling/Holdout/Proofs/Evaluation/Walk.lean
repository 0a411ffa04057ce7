import Mathlib.Data.List.Induction
import Holdout.Evaluation
import Holdout.Proofs.Engine

/-!
# Walking over record results

What a trial makes of a list of record results. A result is fatal if it ends the pass, and
`Trial.Fatal` lists all the ways in which it can. As long as nothing is fatal, the progress of
the trial accounts for every result it has taken.
-/

namespace Holdout

/-- The result is a malformed record. -/
def isMalformed : RecordResult → Bool
  | .error (.malformedRecord _ _) => true
  | _ => false

/-- The well-formed records among results. -/
def records (results : List RecordResult) : List Record := results.filterMap Except.toOption

@[simp] theorem records_append (first second : List RecordResult) :
    records (first ++ second) = records first ++ records second :=
  List.filterMap_append

@[simp] theorem records_ok (record : Record) : records [.ok record] = [record] := rfl

@[simp] theorem records_error (error : DatasetError) : records [.error error] = [] := rfl

namespace Trial

/-- What the preprocessor makes of a record for the engine. -/
def binding (trial : Trial ε) (record : Record) : Except DatasetError InputBinding :=
  trial.kind.transform trial.engine.inputNames record trial.preprocessor

/-- The bindings of the well-formed records among results. -/
def bindings (trial : Trial ε) (results : List RecordResult) : List InputBinding :=
  (records results).filterMap fun record => (trial.binding record).toOption

/-- What the engine answers to the bindings of the results. -/
def answers (trial : Trial ε) (state : ε) (results : List RecordResult) :
    List (Except Failure Outputs) :=
  (trial.engine.runs state (trial.bindings results)).1

/-- Where the engine stands after the bindings of the results. -/
def after (trial : Trial ε) (state : ε) (results : List RecordResult) : ε :=
  (trial.engine.runs state (trial.bindings results)).2

/-- The ways in which a record result can end the pass of an engine that stands at a state. -/
inductive Fatal (trial : Trial ε) (state : ε) : RecordResult → EvalError → Prop
  /-- An error that is no malformed record. -/
  | broken {error : DatasetError} :
      isMalformed (.error error) = false → Fatal trial state (.error error) (.dataset error)
  /-- A malformed record, unless such records are to be skipped. -/
  | malformed {dataset : String} {flaw : Flaw} :
      trial.options.skipMalformed = false →
        Fatal trial state (.error (.malformedRecord dataset flaw))
          (.dataset (.malformedRecord dataset flaw))
  /-- A record that does not become a binding. -/
  | transform {record : Record} {error : DatasetError} :
      trial.binding record = .error error → Fatal trial state (.ok record) (.dataset error)
  /-- A run that fails. -/
  | run {record : Record} {binding : InputBinding} {cause : Failure} :
      trial.binding record = .ok binding → (trial.engine.run state binding).1 = .error cause →
        Fatal trial state (.ok record) (.failure cause)
  /-- Scores of a labelled record that have no highest one, from an engine of one output. -/
  | scores {record : Record} {binding : InputBinding} {outputs : Outputs} {label : Int}
      {scores : Tensor} {others : List Tensor} {cause : Failure} :
      trial.binding record = .ok binding → (trial.engine.run state binding).1 = .ok outputs →
        record.label? = some label → trial.engine.outputs.length = 1 →
          outputs.values = scores :: others → argmax scores = .error cause →
            Fatal trial state (.ok record) (.failure cause)

/-- What is fatal shows in the bindings, in the answers to them and in how many outputs there are:
trials that agree on these come to the same end. -/
theorem Fatal.of_same
    {trial : Trial ε}
    {other : Trial ε'}
    {state : ε}
    {stand : ε'}
    {result : RecordResult}
    {error : EvalError}
    (fatal : trial.Fatal state result error)
    (options : other.options = trial.options)
    (bindings : ∀ record, other.binding record = trial.binding record)
    (outputs : other.engine.outputs = trial.engine.outputs)
    (answers : ∀ binding, (other.engine.run stand binding).1 = (trial.engine.run state binding).1) :
    other.Fatal stand result error := by
  cases fatal with
  | broken broken => exact .broken broken
  | malformed unskipped =>
    apply Fatal.malformed
    rw [options, unskipped]
  | transform noBinding =>
    apply Fatal.transform
    rw [bindings, noBinding]
  | run isBinding failed =>
    rw [← bindings] at isBinding
    rw [← answers] at failed
    exact .run isBinding failed
  | scores isBinding answered isLabel single isScores failed =>
    rw [← bindings] at isBinding
    rw [← answers] at answered
    rw [← outputs] at single
    exact .scores isBinding answered isLabel single isScores failed

/-- No result is fatal for the engine in the state that the results before it have left. -/
def Peaceful (trial : Trial ε) (state : ε) (results : List RecordResult) : Prop :=
  ∀ before result, before ++ [result] <+: results →
    ∀ error, ¬trial.Fatal (trial.after state before) result error

/-- The record tells its class and the outputs have scores to compare with it, of an engine that
has a single output. -/
def isLabelled (trial : Trial ε) : Record × Outputs → Bool
  | (record, outputs) =>
    record.label?.isSome && decide (trial.engine.outputs.length = 1) && !outputs.values.isEmpty

/-- The first of the outputs is highest at the class that the record tells. -/
def isCorrect (trial : Trial ε) : Record × Outputs → Bool
  | (record, outputs) =>
    match record.label?, outputs.values with
    | some label, scores :: _ =>
      decide (trial.engine.outputs.length = 1) &&
        (match argmax scores with
        | .ok best => decide ((best : Int) = label)
        | .error _ => false)
    | _, _ => false

section Results

variable (trial : Trial ε) (state : ε)

@[simp] theorem bindings_append (first second : List RecordResult) :
    trial.bindings (first ++ second) = trial.bindings first ++ trial.bindings second := by
  rw [bindings, records_append, List.filterMap_append]
  rfl

theorem after_append (first second : List RecordResult) :
    trial.after state (first ++ second) = trial.after (trial.after state first) second := by
  rw [after, bindings_append, Engine.runs_append]
  rfl

theorem answers_append (first second : List RecordResult) :
    trial.answers state (first ++ second) =
      trial.answers state first ++ trial.answers (trial.after state first) second := by
  rw [answers, bindings_append, Engine.runs_append]
  rfl

@[simp] theorem bindings_error (error : DatasetError) : trial.bindings [.error error] = [] := rfl

theorem bindings_of_bound
    {record : Record}
    {binding : InputBinding}
    (isBinding : trial.binding record = .ok binding) :
    trial.bindings [.ok record] = [binding] := by
  rw [bindings, records_ok, List.filterMap_cons, isBinding]
  rfl

theorem bindings_of_unbound
    {record : Record}
    {error : DatasetError}
    (noBinding : trial.binding record = .error error) :
    trial.bindings [.ok record] = [] := by
  rw [bindings, records_ok, List.filterMap_cons, noBinding]
  rfl

theorem after_of_bound
    {record : Record}
    {binding : InputBinding}
    (isBinding : trial.binding record = .ok binding) :
    trial.after state [.ok record] = (trial.engine.run state binding).2 := by
  rw [after, bindings_of_bound trial isBinding]
  rfl

theorem after_of_unbound
    {record : Record}
    {error : DatasetError}
    (noBinding : trial.binding record = .error error) :
    trial.after state [.ok record] = state := by
  rw [after, bindings_of_unbound trial noBinding]
  rfl

theorem answers_of_bound
    {record : Record}
    {binding : InputBinding}
    (isBinding : trial.binding record = .ok binding) :
    trial.answers state [.ok record] = [(trial.engine.run state binding).1] := by
  rw [answers, bindings_of_bound trial isBinding]
  rfl

end Results

/-- A pass that has not begun. -/
def outset (trial : Trial ε) (state : ε) : Progress ε :=
  ⟨state, Tally.start trial.kind.name, none⟩

/-- There is no verdict only if the scores of a labelled record have no highest one. -/
theorem verdict_eq_error
    {trial : Trial ε}
    {record : Record}
    {outputs : Outputs}
    {cause : Failure}
    (failed : trial.verdict record outputs = .error cause) :
    ∃ label scores others,
      record.label? = some label ∧ trial.engine.outputs.length = 1 ∧
        outputs.values = scores :: others ∧ argmax scores = .error cause := by
  rw [verdict] at failed
  split at failed
  case h_1 label scores others isLabel single isScores =>
    refine ⟨label, scores, others, isLabel, of_decide_eq_true single, isScores, ?_⟩
    cases best : argmax scores with
    | error other =>
      rw [best] at failed
      exact congrArg Except.error (Except.error.inj failed)
    | ok place =>
      rw [best] at failed
      cases failed
  case h_2 => cases failed

/-- A verdict says whether the record is labelled, and whether its class was found. -/
theorem verdict_eq_ok
    {trial : Trial ε}
    {record : Record}
    {outputs : Outputs}
    {verdict : Option Bool}
    (told : trial.verdict record outputs = .ok verdict) :
    verdict.isSome = trial.isLabelled (record, outputs) ∧
      decide (verdict = some true) = trial.isCorrect (record, outputs) := by
  rw [Trial.verdict] at told
  split at told
  case h_1 label scores others isLabel single isScores =>
    have one : trial.engine.outputs.length = 1 := of_decide_eq_true single
    cases best : argmax scores with
    | error cause =>
      rw [best] at told
      cases told
    | ok place =>
      rw [best] at told
      have isVerdict : some (decide ((place : Int) = label)) = verdict := Except.ok.inj told
      rw [← isVerdict]
      simp [isLabelled, isCorrect, isLabel, isScores, one, best]
  case h_2 other =>
    have none : none = verdict := Except.ok.inj told
    rw [← none]
    cases isLabel : record.label? with
    | none => simp [isLabelled, isCorrect, isLabel]
    | some label =>
      cases isScores : outputs.values with
      | nil => simp [isLabelled, isCorrect, isLabel, isScores]
      | cons scores others =>
        have several : trial.engine.outputs.length ≠ 1 := by
          intro one
          exact other label scores others isLabel (decide_eq_true one) isScores
        simp [isLabelled, isCorrect, isLabel, isScores, several]

theorem judge_of_unbound
    {trial : Trial ε}
    {state : ε}
    {record : Record}
    {error : DatasetError}
    (noBinding : trial.binding record = .error error) :
    trial.judge state record = (.error (.dataset error), state) := by
  rw [binding] at noBinding
  simp only [judge, noBinding]

theorem judge_of_failed_run
    {trial : Trial ε}
    {state : ε}
    {record : Record}
    {binding : InputBinding}
    {cause : Failure}
    (isBinding : trial.binding record = .ok binding)
    (failed : (trial.engine.run state binding).1 = .error cause) :
    trial.judge state record =
      (.error (.failure cause), trial.after state [.ok record]) := by
  have ran : trial.engine.run state binding =
      (.error cause, trial.after state [.ok record]) :=
    Prod.ext failed (trial.after_of_bound state isBinding).symm
  rw [Trial.binding] at isBinding
  rw [judge, isBinding]
  simp only [ran]

theorem judge_of_answer
    {trial : Trial ε}
    {state : ε}
    {record : Record}
    {binding : InputBinding}
    {outputs : Outputs}
    (isBinding : trial.binding record = .ok binding)
    (answered : (trial.engine.run state binding).1 = .ok outputs) :
    trial.judge state record =
      ((trial.verdict record outputs).mapError .failure, trial.after state [.ok record]) := by
  have ran : trial.engine.run state binding =
      (.ok outputs, trial.after state [.ok record]) :=
    Prod.ext answered (trial.after_of_bound state isBinding).symm
  rw [Trial.binding] at isBinding
  rw [judge, isBinding]
  simp only [ran]
  cases trial.verdict record outputs <;> rfl

/-- A fatal result ends the pass with its error, after the run that it may have had. -/
theorem take_of_fatal
    {trial : Trial ε}
    {progress : Progress ε}
    {result : RecordResult}
    {error : EvalError}
    (fatal : trial.Fatal progress.engine result error) :
    (trial.take progress result).value =
      { progress with engine := trial.after progress.engine [result], error := some error } := by
  cases fatal with
  | @broken error broken =>
    cases error with
    | malformedRecord dataset flaw => cases broken
    | _ => rfl
  | malformed unskipped =>
    rw [take, unskipped]
    rfl
  | transform noBinding =>
    simp only [take, judge_of_unbound noBinding, trial.after_of_unbound _ noBinding]
    rfl
  | run isBinding failed =>
    simp only [take, judge_of_failed_run isBinding failed]
    rfl
  | @scores record binding outputs label scores others cause isBinding answered isLabel single
      isScores failed =>
    have noVerdict : trial.verdict record outputs = .error cause := by
      rw [verdict, isLabel, single, isScores]
      change (do return some (decide (((← argmax scores) : Int) = label))) = _
      rw [failed]
      rfl
    simp only [take, judge_of_answer isBinding answered, noVerdict]
    rfl

/-- What the trial makes of a result that is not fatal: it skips a malformed record, or it adds
the verdict on a record that has been run. -/
theorem take_of_not_fatal
    {trial : Trial ε}
    {progress : Progress ε}
    {result : RecordResult}
    (peaceful : ∀ error, ¬trial.Fatal progress.engine result error) :
    (∃ dataset flaw, result = .error (.malformedRecord dataset flaw) ∧
      trial.options.skipMalformed = true ∧
      (trial.take progress result).value = { progress with tally := progress.tally.skip }) ∨
    (∃ record binding outputs verdict, result = .ok record ∧
      trial.binding record = .ok binding ∧
      (trial.engine.run progress.engine binding).1 = .ok outputs ∧
      trial.verdict record outputs = .ok verdict ∧
      (trial.take progress result).value =
        { progress with
          engine := trial.after progress.engine [.ok record]
          tally := progress.tally.add verdict }) := by
  cases result with
  | error error =>
    left
    cases error with
    | malformedRecord dataset flaw =>
      by_cases skipped : trial.options.skipMalformed = true
      · refine ⟨dataset, flaw, rfl, skipped, ?_⟩
        rw [take, if_pos skipped]
        rfl
      · rw [Bool.not_eq_true] at skipped
        exact absurd (Fatal.malformed skipped) (peaceful _)
    | _ => exact absurd (Fatal.broken rfl) (peaceful _)
  | ok record =>
    right
    cases isBinding : trial.binding record with
    | error error => exact absurd (Fatal.transform isBinding) (peaceful _)
    | ok binding =>
      cases answered : (trial.engine.run progress.engine binding).1 with
      | error cause => exact absurd (Fatal.run isBinding answered) (peaceful _)
      | ok outputs =>
        cases told : trial.verdict record outputs with
        | error cause =>
          obtain ⟨label, scores, others, isLabel, single, isScores, failed⟩ :=
            verdict_eq_error told
          exact absurd (Fatal.scores isBinding answered isLabel single isScores failed)
            (peaceful _)
        | ok verdict =>
          refine ⟨record, binding, outputs, verdict, rfl, isBinding, answered, told, ?_⟩
          simp only [take, judge_of_answer isBinding answered, told]
          rfl

theorem peaceful_nil (trial : Trial ε) (state : ε) : trial.Peaceful state [] := by
  intro before result within
  simp at within

/-- One more result is peaceful if it is not fatal behind the others. -/
theorem peaceful_snoc
    {trial : Trial ε}
    {state : ε}
    {results : List RecordResult}
    {result : RecordResult} :
    trial.Peaceful state (results ++ [result]) ↔
      trial.Peaceful state results ∧
        ∀ error, ¬trial.Fatal (trial.after state results) result error := by
  constructor
  · intro peaceful
    refine ⟨?_, peaceful results result (List.prefix_refl _)⟩
    intro before other within
    exact peaceful before other (within.trans (List.prefix_append _ _))
  · intro ⟨peaceful, notFatal⟩ before other within
    rcases List.prefix_concat_iff.mp within with same | inside
    · obtain ⟨sameBefore, sameLast⟩ := List.append_inj' same rfl
      rw [sameBefore, (List.cons.inj sameLast).1]
      exact notFatal
    · exact peaceful before other inside

/-- Either nothing is fatal, or there is a first fatal result. -/
theorem peaceful_or_fatal (trial : Trial ε) (state : ε) (results : List RecordResult) :
    trial.Peaceful state results ∨
      ∃ before result rest error,
        results = before ++ result :: rest ∧ trial.Peaceful state before ∧
          trial.Fatal (trial.after state before) result error := by
  induction results using List.reverseRecOn with
  | nil => exact Or.inl (trial.peaceful_nil state)
  | append_singleton results last inductionHypothesis =>
    rcases inductionHypothesis with peaceful | ⟨before, result, rest, error, same, found⟩
    · by_cases fatal : ∃ error, trial.Fatal (trial.after state results) last error
      · obtain ⟨error, isFatal⟩ := fatal
        exact Or.inr ⟨results, last, [], error, rfl, peaceful, isFatal⟩
      · exact Or.inl (peaceful_snoc.mpr ⟨peaceful, not_exists.mp fatal⟩)
    · refine Or.inr ⟨before, result, rest ++ [last], error, ?_, found⟩
      rw [same, List.append_assoc, List.cons_append]

/-- Progress that has taken these results, none of them fatal, and has counted each. -/
structure Accounts
    (trial : Trial ε)
    (state : ε)
    (results : List RecordResult)
    (outputs : List Outputs)
    (progress : Progress ε) : Prop where
  noError : progress.error = none
  engine : progress.engine = trial.after state results
  dataset : progress.tally.dataset = trial.kind.name
  seen : progress.tally.seen = results.length
  evaluated : progress.tally.evaluated = (records results).length
  skipped : progress.tally.skipped = results.countP isMalformed
  counted : progress.tally.seen = progress.tally.evaluated + progress.tally.skipped
  unskipped : trial.options.skipMalformed = false → progress.tally.skipped = 0
  /-- Every well-formed record has become a binding. -/
  bound : (records results).map trial.binding = (trial.bindings results).map .ok
  /-- Every run has succeeded. -/
  answered : trial.answers state results = outputs.map .ok
  labelled : progress.tally.labelled = ((records results).zip outputs).countP trial.isLabelled
  correct : progress.tally.correct = ((records results).zip outputs).countP trial.isCorrect

theorem Accounts.outset (trial : Trial ε) (state : ε) :
    trial.Accounts state [] [] (trial.outset state) where
  noError := rfl
  engine := rfl
  dataset := rfl
  seen := rfl
  evaluated := rfl
  skipped := rfl
  counted := rfl
  unskipped _ := rfl
  bound := rfl
  answered := rfl
  labelled := rfl
  correct := rfl

/-- There are as many bindings as records. -/
theorem Accounts.length_bindings
    {trial : Trial ε}
    {state : ε}
    {results : List RecordResult}
    {outputs : List Outputs}
    {progress : Progress ε}
    (accounts : trial.Accounts state results outputs progress) :
    (trial.bindings results).length = (records results).length := by
  have lengths := congrArg List.length accounts.bound
  rw [List.length_map, List.length_map] at lengths
  exact lengths.symm

/-- There are as many outputs as records. -/
theorem Accounts.length_outputs
    {trial : Trial ε}
    {state : ε}
    {results : List RecordResult}
    {outputs : List Outputs}
    {progress : Progress ε}
    (accounts : trial.Accounts state results outputs progress) :
    (records results).length = outputs.length := by
  have lengths := congrArg List.length accounts.answered
  rw [List.length_map, answers, Engine.length_runs, accounts.length_bindings] at lengths
  exact lengths

/-- A malformed record that is skipped is accounted for. -/
theorem Accounts.skip
    {trial : Trial ε}
    {state : ε}
    {results : List RecordResult}
    {outputs : List Outputs}
    {progress : Progress ε}
    (accounts : trial.Accounts state results outputs progress)
    (skipped : trial.options.skipMalformed = true)
    (dataset : String)
    (flaw : Flaw) :
    trial.Accounts state (results ++ [.error (.malformedRecord dataset flaw)]) outputs
      { progress with tally := progress.tally.skip } := by
  have listed : records (results ++ [.error (.malformedRecord dataset flaw)]) =
      records results := by
    rw [records_append, records_error, List.append_nil]
  have bindings : trial.bindings (results ++ [.error (.malformedRecord dataset flaw)]) =
      trial.bindings results := by
    rw [bindings_append, bindings_error, List.append_nil]
  constructor
  case noError => exact accounts.noError
  case engine =>
    rw [after, bindings]
    exact accounts.engine
  case dataset => exact accounts.dataset
  case seen =>
    rw [List.length_append, ← accounts.seen]
    rfl
  case evaluated =>
    rw [listed]
    exact accounts.evaluated
  case skipped =>
    rw [List.countP_append, ← accounts.skipped]
    rfl
  case counted =>
    have counted := accounts.counted
    simp only [Tally.skip]
    omega
  case unskipped =>
    intro off
    rw [off] at skipped
    cases skipped
  case bound =>
    rw [listed, bindings]
    exact accounts.bound
  case answered =>
    rw [answers, bindings]
    exact accounts.answered
  case labelled =>
    rw [listed]
    exact accounts.labelled
  case correct =>
    rw [listed]
    exact accounts.correct

/-- A record that has been run is accounted for. -/
theorem Accounts.add
    {trial : Trial ε}
    {state : ε}
    {results : List RecordResult}
    {outputs : List Outputs}
    {progress : Progress ε}
    (accounts : trial.Accounts state results outputs progress)
    {record : Record}
    {binding : InputBinding}
    {output : Outputs}
    {verdict : Option Bool}
    (isBinding : trial.binding record = .ok binding)
    (answered : (trial.engine.run progress.engine binding).1 = .ok output)
    (told : trial.verdict record output = .ok verdict) :
    trial.Accounts state (results ++ [.ok record]) (outputs ++ [output])
      { progress with
        engine := trial.after progress.engine [.ok record]
        tally := progress.tally.add verdict } := by
  have listed : records (results ++ [.ok record]) = records results ++ [record] := by
    rw [records_append, records_ok]
  have zipped : (records (results ++ [.ok record])).zip (outputs ++ [output]) =
      (records results).zip outputs ++ [(record, output)] := by
    rw [listed, List.zip_append accounts.length_outputs]
    rfl
  obtain ⟨isLabelled, isCorrect⟩ := verdict_eq_ok told
  constructor
  case noError => exact accounts.noError
  case engine => rw [after_append, accounts.engine]
  case dataset => exact accounts.dataset
  case seen =>
    rw [List.length_append, ← accounts.seen]
    rfl
  case evaluated =>
    rw [listed, List.length_append, ← accounts.evaluated]
    rfl
  case skipped =>
    rw [List.countP_append, ← accounts.skipped]
    rfl
  case counted =>
    have counted := accounts.counted
    simp only [Tally.add]
    omega
  case unskipped => exact accounts.unskipped
  case bound =>
    rw [listed, bindings_append, bindings_of_bound trial isBinding, List.map_append,
      List.map_append, accounts.bound]
    simp only [List.map_cons, List.map_nil, isBinding]
  case answered =>
    rw [accounts.engine] at answered
    rw [answers_append, answers_of_bound trial _ isBinding, answered, accounts.answered,
      List.map_append]
    rfl
  case labelled =>
    rw [zipped, List.countP_append, ← accounts.labelled, List.countP_singleton, ← isLabelled]
    rfl
  case correct =>
    rw [zipped, List.countP_append, ← accounts.correct, List.countP_singleton, ← isCorrect]
    simp [Tally.add]

/-- A result that is not fatal is accounted for. -/
theorem Accounts.take
    {trial : Trial ε}
    {state : ε}
    {results : List RecordResult}
    {outputs : List Outputs}
    {progress : Progress ε}
    (accounts : trial.Accounts state results outputs progress)
    {result : RecordResult}
    (peaceful : ∀ error, ¬trial.Fatal (trial.after state results) result error) :
    ∃ allOutputs,
      trial.Accounts state (results ++ [result]) allOutputs
        (trial.take progress result).value := by
  rw [← accounts.engine] at peaceful
  rcases take_of_not_fatal peaceful with
    ⟨dataset, flaw, same, skipped, taken⟩ |
    ⟨record, binding, output, verdict, same, isBinding, answered, told, taken⟩
  · rw [taken, same]
    exact ⟨outputs, accounts.skip skipped dataset flaw⟩
  · rw [taken, same]
    exact ⟨outputs ++ [output], accounts.add isBinding answered told⟩

end Trial
end Holdout
