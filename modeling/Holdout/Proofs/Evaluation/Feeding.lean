import Holdout.Proofs.Dataset
import Holdout.Proofs.Evaluation.Agreement
import Holdout.Proofs.Model.Feeding
import Holdout.Proofs.Transform

/-!
# What an evaluation feeds to a model

A set binds records to exactly the names of a model's inputs or rejects them, so a model is never
given a binding that it cannot be fed with. A pass that does not end is no exception: at any time it
has been handed finitely many record results.
-/

namespace Holdout

namespace Model

/-- The model can be fed with the binding: it has a tensor for each input, and no others. -/
def Accepts (model : Model) (binding : InputBinding) : Prop :=
  ∃ tensors, feedInputs (model.inputs.map Prod.fst) binding = .ok tensors

/-- A set binds records for a model to what the model accepts. -/
theorem accepts_of_transform
    {model : Model}
    {kind : SetKind}
    {record : Record}
    {preprocessor : Preprocessor}
    {binding : InputBinding}
    (bound : kind.transform model.engine.inputNames record preprocessor = .ok binding) :
    model.Accepts binding :=
  feedInputs_of_perm (model.inputNames_perm.symm.trans (SetKind.perm_of_transform bound))

/-- What is produced for a question is bound if the model accepts it, and is a mismatch if not. -/
theorem transform_of_produced
    (model : Model)
    {kind : SetKind}
    (questions : kind ≠ .imageNet)
    {question : QuestionRecord}
    {run : String → String → Nat → Except Failure InputBinding}
    {produced : InputBinding}
    (ran : run question.question question.context maxSequenceLength = .ok produced) :
    (model.Accepts produced ∧
      kind.transform model.engine.inputNames (.question question) (.text run) = .ok produced) ∨
    kind.transform model.engine.inputNames (.question question) (.text run) =
      .error (.contractMismatch (.names model.engine.inputNames produced.names)) := by
  rw [SetKind.transform_question questions, ran, SetKind.bindQuestion_ok]
  by_cases same : model.engine.inputNames.Perm produced.names
  · left
    rw [checkNames_of_perm same]
    exact ⟨feedInputs_of_perm (model.inputNames_perm.symm.trans same), rfl⟩
  · right
    rw [checkNames_of_not_perm same, Engine.inputNames, sortedNames_sortedNames]
    rfl

/-- The tensor that is produced for an image is bound to the only input of a model, which accepts it,
and is a mismatch if it has another shape or if the model does not have exactly one input. -/
theorem transform_of_tensor
    (model : Model)
    {image : ImageRecord}
    {run : ByteArray → Except Failure Tensor}
    {tensor : Tensor}
    (ran : run image.jpeg = .ok tensor) :
    (∃ input,
      model.inputs.map Prod.fst = [input] ∧
      tensor.shape = imageInputShape ∧
      model.Accepts (NameMap.empty.insert input tensor) ∧
      SetKind.imageNet.transform model.engine.inputNames (.image image) (.image run) =
        .ok (NameMap.empty.insert input tensor)) ∨
    (∃ mismatch,
      (model.inputs.length ≠ 1 ∨ tensor.shape ≠ imageInputShape) ∧
      SetKind.imageNet.transform model.engine.inputNames (.image image) (.image run) =
        .error (.contractMismatch mismatch)) := by
  have names := model.inputNames_perm
  by_cases single : model.inputs.length = 1
  · obtain ⟨input, isInput⟩ := List.length_eq_one_iff.mp
      ((List.length_map Prod.fst).trans single)
    have isName : model.engine.inputNames = [input] := by
      rw [isInput] at names
      exact List.perm_singleton.mp names
    have bound (input : String) : SetKind.imageNet.transform [input] (.image image) (.image run) =
        (checkShape input tensor imageInputShape).map fun _ => NameMap.empty.insert input tensor :=
      (congrArg (SetKind.bindImage input) ran).trans (SetKind.bindImage_ok input tensor)
    rw [isName, bound]
    by_cases shaped : tensor.shape = imageInputShape
    · left
      refine ⟨input, isInput, shaped, feedInputs_of_perm ?_, ?_⟩
      · rw [isInput, NameMap.names_insert_empty]
      · rw [checkShape, if_pos shaped]
        rfl
    · right
      refine ⟨.shape input tensor.shape imageInputShape, Or.inr shaped, ?_⟩
      rw [checkShape, if_neg shaped]
      rfl
  · right
    have several : model.engine.inputNames.length ≠ 1 := by
      rw [names.length_eq, List.length_map]
      exact single
    exact ⟨_, Or.inl single, SetKind.transform_of_length_ne_one several _ _⟩

/-- A model that has been fed can only fail on its own account. -/
theorem eq_within_of_run_eq_error
    {model : Model}
    {binding : InputBinding}
    {cause : Failure}
    (accepts : model.Accepts binding)
    (failed : model.run binding = .error cause) :
    cause = .within .engine := by
  obtain ⟨tensors, fed⟩ := accepts
  cases ran : model.plan tensors with
  | none =>
    simp only [run, fed, bind, Except.bind, ran] at failed
    exact (Except.error.inj failed).symm
  | some results =>
    simp only [run, fed, bind, Except.bind, ran] at failed
    cases failed

end Model

/-- There is no best score only where there are no scores. -/
theorem eq_noScores_of_argmax_eq_error
    {scores : Tensor}
    {cause : Failure}
    (failed : argmax scores = .error cause) :
    cause = .noScores := by
  rw [argmax] at failed
  split at failed
  · cases failed
  · exact (Except.error.inj failed).symm

namespace Trial

theorem exists_binding_of_mem_bindings
    {trial : Trial ε}
    {results : List RecordResult}
    {binding : InputBinding}
    (member : binding ∈ trial.bindings results) :
    ∃ record, trial.binding record = .ok binding := by
  obtain ⟨record, -, isBinding⟩ := List.mem_filterMap.mp member
  cases bound : trial.binding record with
  | error error =>
    rw [bound] at isBinding
    cases isBinding
  | ok produced =>
    rw [bound] at isBinding
    exact ⟨record, bound.trans (congrArg Except.ok (Option.some.inj isBinding))⟩

/-- After any results a pass has given its engine the bindings of the first of them. -/
theorem exists_kept_eq (trial : Trial ε) (state : ε) (results : List RecordResult) :
    ∃ taken, taken <+: results ∧
      (trial.recording.through results (trial.recording.outset (state, []))).engine.2 =
        (trial.bindings taken).reverse := by
  rcases trial.recording.feedPending_cases (state, []) results with
    ⟨progress, outputs, rest, fed, accounts⟩ |
    ⟨before, result, rest, error, progress, split, first, fed, failed, engine⟩
  · refine ⟨trial.options.admitted results, trial.options.admitted_prefix results, ?_⟩
    rw [through, fed, accounts.engine, after_recording_nil]
    rfl
  · refine ⟨before ++ [result], ⟨rest, ?_⟩, ?_⟩
    · rw [split, List.append_assoc, List.singleton_append]
    · rw [through, fed, engine, after_recording_nil]

/-- A model accepts every binding that a pass gives it. -/
theorem accepts_of_mem_kept
    {trial : Trial Unit}
    {model : Model}
    (feeds : trial.engine = model.engine)
    {results : List RecordResult}
    {binding : InputBinding}
    (member : binding ∈
      (trial.recording.through results (trial.recording.outset ((), []))).engine.2) :
    model.Accepts binding := by
  obtain ⟨taken, -, kept⟩ := trial.exists_kept_eq () results
  rw [kept, List.mem_reverse] at member
  obtain ⟨record, bound⟩ := exists_binding_of_mem_bindings member
  rw [Trial.binding, feeds] at bound
  exact Model.accepts_of_transform bound

/-- No pass of a model ends because of what the model was given. -/
theorem Fatal.ne_of_engine
    {trial : Trial Unit}
    {model : Model}
    (feeds : trial.engine = model.engine)
    {result : RecordResult}
    {cause : Failure}
    (fatal : trial.Fatal () result (.failure cause)) :
    cause = .within .engine ∨ cause = .noScores := by
  cases fatal with
  | run bound failed =>
    left
    rw [Trial.binding, feeds] at bound
    rw [feeds] at failed
    exact Model.eq_within_of_run_eq_error (Model.accepts_of_transform bound) failed
  | scores _ _ _ _ _ failed =>
    right
    exact eq_noScores_of_argmax_eq_error failed

end Trial

section Evaluate

variable {model : Model} {set : ValidationSet} {source : Source τ σ} {memory : τ}
  {preprocessor : Preprocessor} {options : EvalOptions}

/-- What an evaluation that has come to an end has given its model. -/
theorem accepts_of_mem_evaluate
    {recorded : Logged (Evaluation (Unit × List InputBinding) σ)}
    (comes : (evaluate set source memory model.engine.recording ((), []) preprocessor
      options).run? = some recorded)
    {binding : InputBinding}
    (member : binding ∈ recorded.value.engine.2) :
    model.Accepts binding := by
  rcases evaluate_cases comes with ⟨cause, -, value⟩ | ⟨opened, fed, -, isFed, value⟩
  · rw [value] at member
    cases member
  · obtain ⟨items, stand, feeds⟩ := RecordStream.feeds_of_feedPulling rfl isFed
    rw [value] at member
    change binding ∈ fed.value.1.engine.2 at member
    rw [feeds.reader_eq, RecordStream.handed_new] at member
    have same : (set.trial model.engine preprocessor options).engine = model.engine := rfl
    exact Trial.accepts_of_mem_kept same member

/-- An evaluation that fails through its engine does so on the engine's own account. -/
theorem failure_of_evaluate
    {run : Logged (Evaluation Unit σ)}
    {cause : Failure}
    (comes : (evaluate set source memory model.engine () preprocessor options).run? = some run)
    (failed : run.value.outcome = .error (.failure cause)) :
    cause = .within .engine ∨ cause = .noScores := by
  rcases evaluate_cases comes with ⟨unopened, -, value⟩ | ⟨opened, fed, -, isFed, value⟩
  · rw [value] at failed
    cases failed
  · rw [value] at failed
    obtain ⟨items, stand, -, pass⟩ := Trial.pass_outcome isFed
    rcases pass with
      ⟨outputs, accounts, -⟩ | ⟨before, result, rest, error, -, first, stopped, -⟩
    · simp only [Progress.outcome, accounts.noError] at failed
      cases failed
    · simp only [Progress.outcome, stopped, Except.error.injEq] at failed
      have fatal := first.fatal
      rw [failed] at fatal
      have same : (set.trial model.engine preprocessor options).engine = model.engine := rfl
      exact fatal.ne_of_engine same

end Evaluate

/-- A model is given only bindings that it accepts, whatever the set, the source and the
preprocessor are, and however the names of its inputs are ordered or repeated. So an evaluation never
fails because an input was missing or because there was one too many.

A pass has given nothing else after any record results that it was handed, so this holds of an
evaluation that does not end, too. What a preprocessor has produced for a question, or for an image,
becomes the binding if the model accepts it, and is a mismatch otherwise. -/
theorem evaluate_feeds_accepted_bindings
    (model : Model)
    (set : ValidationSet)
    (source : Source τ σ)
    (memory : τ)
    (preprocessor : Preprocessor)
    (options : EvalOptions) :
    (∀ run,
      (evaluate set source memory model.engine () preprocessor options).run? = some run →
      ∃ recorded,
        (evaluate set source memory model.engine.recording ((), []) preprocessor options).run? =
          some recorded ∧
        recorded.value.outcome = run.value.outcome ∧
        (∀ binding ∈ recorded.value.engine.2, model.Accepts binding) ∧
        (∀ name, run.value.outcome ≠ .error (.failure (.missingInput name))) ∧
        (∀ names, run.value.outcome ≠ .error (.failure (.surplusInputs names)))) ∧
    (∀ results binding,
      binding ∈ ((set.trial model.engine preprocessor options).recording.through results
        ((set.trial model.engine preprocessor options).recording.outset ((), []))).engine.2 →
      model.Accepts binding) ∧
    (∀ question run produced,
      set.kind ≠ .imageNet → preprocessor = .text run →
      run question.question question.context maxSequenceLength = .ok produced →
      (model.Accepts produced ∧
        set.kind.transform model.engine.inputNames (.question question) preprocessor =
          .ok produced) ∨
      set.kind.transform model.engine.inputNames (.question question) preprocessor =
        .error (.contractMismatch (.names model.engine.inputNames produced.names))) ∧
    (∀ image run tensor,
      set.kind = .imageNet → preprocessor = .image run → run image.jpeg = .ok tensor →
      (∃ input,
        model.inputs.map Prod.fst = [input] ∧
        tensor.shape = imageInputShape ∧
        model.Accepts (NameMap.empty.insert input tensor) ∧
        set.kind.transform model.engine.inputNames (.image image) preprocessor =
          .ok (NameMap.empty.insert input tensor)) ∨
      (∃ mismatch,
        (model.inputs.length ≠ 1 ∨ tensor.shape ≠ imageInputShape) ∧
        set.kind.transform model.engine.inputNames (.image image) preprocessor =
          .error (.contractMismatch mismatch))) := by
  refine ⟨?_, ?_, ?_, ?_⟩
  · intro run comes
    obtain ⟨recorded, isRecorded, value⟩ := evaluate_recording comes []
    refine ⟨recorded, isRecorded, ?_, ?_, ?_, ?_⟩
    · rw [value]
    · intro binding member
      exact accepts_of_mem_evaluate isRecorded member
    · intro name failed
      rcases failure_of_evaluate comes failed with engine | scores
      · cases engine
      · cases scores
    · intro names failed
      rcases failure_of_evaluate comes failed with engine | scores
      · cases engine
      · cases scores
  · intro results binding member
    exact Trial.accepts_of_mem_kept rfl member
  · intro question run produced questions isText ran
    rw [isText]
    exact model.transform_of_produced questions ran
  · intro image run tensor images isImage ran
    rw [images, isImage]
    exact model.transform_of_tensor ran

/-- A model of two inputs, not in the order of their names, that gives nothing. -/
def silent : Model where
  inputs := [("words", [1]), ("mask", [2])]
  outputs := []
  plan _ := some []

/-- A word and two marks. -/
def wordAndMarks : InputBinding :=
  (NameMap.empty.insert "mask" (Tensor.zeros .f32 [2])).insert "words" (Tensor.zeros .f32 [1])

/-- A preprocessor that makes a word and two marks of every question. -/
def marking : Preprocessor := .text fun _ _ _ => .ok wordAndMarks

/-- A source of one article with one question. -/
def oneQuestion : Source Unit (List ItemResult) :=
  .fixed [.row (QuestionRecord.article [⟨"Rome was built.", "In a day?"⟩])]

/-- One question is put to the model, by a binding that it accepts. -/
theorem evaluate_feeds_silent :
    ∃ run recorded,
      (evaluate ⟨.squad, "dev.json"⟩ oneQuestion () silent.engine () marking
        ⟨none, false⟩).run? = some run ∧
      (evaluate ⟨.squad, "dev.json"⟩ oneQuestion () silent.engine.recording ((), []) marking
        ⟨none, false⟩).run? = some recorded ∧
      recorded.value.outcome = .ok ⟨"squad-v1.1", 1, 1, 0, 0, 0⟩ ∧
      run.value.outcome = recorded.value.outcome ∧
      recorded.value.engine.2 = [wordAndMarks] ∧
      silent.Accepts wordAndMarks := by
  have brings : oneQuestion.Brings
      [.ok (.row (QuestionRecord.article [⟨"Rome was built.", "In a day?"⟩]))]
      [.ok (.row (QuestionRecord.article [⟨"Rome was built.", "In a day?"⟩]))] [] :=
    .item rfl (.nothing _)
  obtain ⟨run, -, comes, -⟩ : ∃ run progress,
      (evaluate ⟨.squad, "dev.json"⟩ oneQuestion () silent.engine () marking
        ⟨none, false⟩).run? = some run ∧ _ := evaluate_of_ends rfl brings rfl
  obtain ⟨same, progress, comesToo, isProgress, outcome, engine⟩ :
      ∃ same progress, (evaluate ⟨.squad, "dev.json"⟩ oneQuestion () silent.engine.recording
        ((), []) marking ⟨none, false⟩).run? = some same ∧ _ := evaluate_of_ends rfl brings rfl
  obtain ⟨recorded, isRecorded, sameOutcome, accepted, -⟩ :=
    (evaluate_feeds_accepted_bindings silent ⟨.squad, "dev.json"⟩ oneQuestion () marking
      ⟨none, false⟩).1 run comes
  rw [Option.some.inj (comesToo.symm.trans isRecorded)] at outcome engine
  have names : silent.engine.inputNames.Perm ["words", "mask"] := silent.inputNames_perm
  have meets : SetKind.squad.Binds silent.engine.inputNames
      (.question ⟨"Rome was built.", "In a day?"⟩) marking wordAndMarks := by
    refine .question (by decide) rfl (names.nodup_iff.mpr (by decide)) fun name => ?_
    change _ ↔ name ∈ ["mask", "words"]
    rw [names.mem_iff, List.mem_pair, List.mem_pair, or_comm]
  have answered : (silent.engine.recording.run ((), []) wordAndMarks).1 = .ok .empty := by
    rfl
  have fed : progress = ⟨((), [wordAndMarks]), ⟨"squad-v1.1", 1, 1, 0, 0, 0⟩, none⟩ := by
    rw [isProgress]
    change (RecordStream.feedPending _ _ [.ok (.question ⟨"Rome was built.", "In a day?"⟩)] _).value.1
      = _
    rw [RecordStream.feedPending_cons_of_wants rfl, Trial.take,
      Trial.judge_of_answer (SetKind.transform_of_binds meets) answered,
      Trial.after_of_bound _ _ (SetKind.transform_of_binds meets)]
    rfl
  have kept : recorded.value.engine.2 = [wordAndMarks] := by
    rw [engine, fed]
  refine ⟨run, recorded, comes, isRecorded, ?_, sameOutcome.symm, kept, accepted _ ?_⟩
  · rw [outcome, fed]
    rfl
  · rw [kept]
    exact List.mem_singleton_self _

end Holdout
