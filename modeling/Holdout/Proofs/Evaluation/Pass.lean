import Holdout.Proofs.Evaluation.Walk
import Holdout.Proofs.RecordStream

/-!
# A pass through a trial

Where a pass stands after the results of a stream: it has accounted for all that the limit
admits, or it has stopped at the first fatal one. Evaluations are passes over a stream that has
been opened, and an engine that keeps its bindings shows which runs a pass has made.
-/

namespace Holdout

/-- At most this many record results are taken. -/
def EvalOptions.bound (options : EvalOptions) : ℕ∞ :=
  match options.limit with
  | none => ⊤
  | some limit => limit

/-- The results that the limit admits. -/
def EvalOptions.admitted (options : EvalOptions) (results : List α) : List α :=
  match options.limit with
  | none => results
  | some limit => results.take limit

theorem EvalOptions.admitted_prefix (options : EvalOptions) (results : List α) :
    options.admitted results <+: results := by
  rw [admitted]
  split
  · exact List.prefix_refl _
  · exact List.take_prefix _ _

theorem EvalOptions.length_admitted (options : EvalOptions) (results : List α) :
    ((options.admitted results).length : ℕ∞) = min options.bound results.length := by
  rw [admitted, bound]
  split
  · rw [min_eq_right le_top]
  · rw [List.length_take]
    exact Nat.mono_cast.map_min

namespace Trial

/-- A pass that has had nothing fatal goes on below the limit. -/
theorem Accounts.wants_iff
    {trial : Trial ε}
    {state : ε}
    {results : List RecordResult}
    {outputs : List Outputs}
    {progress : Progress ε}
    (accounts : trial.Accounts state results outputs progress) :
    trial.wants progress = true ↔ (results.length : ℕ∞) < trial.options.bound := by
  rw [wants, accounts.noError, accounts.seen, EvalOptions.bound]
  cases trial.options.limit with
  | none => simp
  | some limit => simp

theorem wants_of_error
    {trial : Trial ε}
    {progress : Progress ε}
    {error : EvalError}
    (failed : progress.error = some error) :
    trial.wants progress = false := by
  rw [wants, failed]
  rfl

/-- Results that the limit admits are all accounted for if none is fatal. -/
theorem feedPending_of_peaceful
    {trial : Trial ε}
    {state : ε}
    {results : List RecordResult}
    (peaceful : trial.Peaceful state results)
    (admitted : (results.length : ℕ∞) ≤ trial.options.bound) :
    ∃ progress outputs,
      (RecordStream.feedPending trial.wants trial.take results (trial.outset state)).value =
        (progress, []) ∧ trial.Accounts state results outputs progress := by
  induction results using List.reverseRecOn with
  | nil => exact ⟨trial.outset state, [], rfl, Accounts.outset trial state⟩
  | append_singleton results last inductionHypothesis =>
    obtain ⟨peacefulBefore, notFatal⟩ := peaceful_snoc.mp peaceful
    have below : (results.length : ℕ∞) < trial.options.bound := by
      rw [List.length_append, List.length_singleton] at admitted
      exact lt_of_lt_of_le (Nat.cast_lt.mpr (Nat.lt_succ_self _)) admitted
    obtain ⟨progress, outputs, fed, accounts⟩ := inductionHypothesis peacefulBefore below.le
    have wanted : trial.wants progress = true := accounts.wants_iff.mpr below
    obtain ⟨allOutputs, accountsAll⟩ := accounts.take notFatal
    refine ⟨(trial.take progress last).value, allOutputs, ?_, accountsAll⟩
    rw [RecordStream.feedPending_append, fed, if_pos wanted,
      RecordStream.feedPending_cons_of_wants wanted]
    rfl

/-- The limit admits a result behind others, and it is the first to be fatal. -/
structure FirstFatal
    (trial : Trial ε)
    (state : ε)
    (before : List RecordResult)
    (result : RecordResult)
    (error : EvalError) : Prop where
  admitted : (before.length : ℕ∞) < trial.options.bound
  peaceful : trial.Peaceful state before
  fatal : trial.Fatal (trial.after state before) result error

/-- Every well-formed record before a fatal result has become a binding. -/
theorem FirstFatal.bound
    {trial : Trial ε}
    {state : ε}
    {before : List RecordResult}
    {result : RecordResult}
    {error : EvalError}
    (first : trial.FirstFatal state before result error) :
    (records before).map trial.binding = (trial.bindings before).map .ok := by
  obtain ⟨_, _, -, accounts⟩ := feedPending_of_peaceful first.peaceful first.admitted.le
  exact accounts.bound

/-- Among results there is only one that is the first to be fatal. -/
theorem FirstFatal.eq_of_prefix
    {trial : Trial ε}
    {state : ε}
    {before others : List RecordResult}
    {result other : RecordResult}
    {error otherError : EvalError}
    (first : trial.FirstFatal state before result error)
    (firstToo : trial.FirstFatal state others other otherError)
    (within : before ++ [result] <+: others ++ [other]) :
    before = others ∧ result = other := by
  rcases List.prefix_concat_iff.mp within with same | inside
  · obtain ⟨sameBefore, sameLast⟩ := List.append_inj' same rfl
    exact ⟨sameBefore, (List.cons.inj sameLast).1⟩
  · exact absurd first.fatal (firstToo.peaceful before result inside error)

/-- A pass stops right behind the first fatal result. -/
theorem feedPending_of_firstFatal
    {trial : Trial ε}
    {state : ε}
    {before : List RecordResult}
    {result : RecordResult}
    {error : EvalError}
    (first : trial.FirstFatal state before result error)
    (rest : List RecordResult) :
    ∃ progress,
      (RecordStream.feedPending trial.wants trial.take (before ++ result :: rest)
        (trial.outset state)).value = (progress, rest) ∧
      progress.error = some error ∧
      progress.engine = trial.after state (before ++ [result]) := by
  obtain ⟨progress, outputs, fed, accounts⟩ :=
    feedPending_of_peaceful first.peaceful first.admitted.le
  have wanted : trial.wants progress = true := accounts.wants_iff.mpr first.admitted
  have taken : (trial.take progress result).value =
      { progress with
        engine := trial.after progress.engine [result]
        error := some error } := by
    apply take_of_fatal
    rw [accounts.engine]
    exact first.fatal
  refine ⟨(trial.take progress result).value, ?_, ?_, ?_⟩
  · have stopped : trial.wants (trial.take progress result).value = false := by
      rw [taken]
      exact wants_of_error rfl
    rw [RecordStream.feedPending_append, fed, if_pos wanted,
      RecordStream.feedPending_cons_of_wants wanted,
      RecordStream.feedPending_of_satisfied stopped]
  · rw [taken]
  · rw [taken, accounts.engine, after_append]

/-- After any results a pass has accounted for those that the limit admits, or has stopped at a
first fatal one among them. -/
theorem feedPending_cases (trial : Trial ε) (state : ε) (results : List RecordResult) :
    (∃ progress outputs rest,
      (RecordStream.feedPending trial.wants trial.take results (trial.outset state)).value =
        (progress, rest) ∧
      trial.Accounts state (trial.options.admitted results) outputs progress) ∨
    (∃ before result rest error progress,
      results = before ++ result :: rest ∧
      trial.FirstFatal state before result error ∧
      (RecordStream.feedPending trial.wants trial.take results (trial.outset state)).value =
        (progress, rest) ∧
      progress.error = some error ∧
      progress.engine = trial.after state (before ++ [result])) := by
  obtain ⟨beyond, whole⟩ := trial.options.admitted_prefix results
  have length := trial.options.length_admitted results
  rcases trial.peaceful_or_fatal state (trial.options.admitted results) with
    peaceful | ⟨before, result, rest, error, same, peaceful, fatal⟩
  · left
    have within : ((trial.options.admitted results).length : ℕ∞) ≤ trial.options.bound :=
      length ▸ min_le_left _ _
    obtain ⟨progress, outputs, fed, accounts⟩ := feedPending_of_peaceful peaceful within
    cases wanted : trial.wants progress with
    | true =>
      have below : ((trial.options.admitted results).length : ℕ∞) < trial.options.bound :=
        accounts.wants_iff.mp wanted
      have all : trial.options.admitted results = results := by
        apply (trial.options.admitted_prefix results).eq_of_length
        rcases min_choice trial.options.bound (results.length : ℕ∞) with least | least
        · rw [length, least] at below
          exact absurd below (lt_irrefl _)
        · rw [least] at length
          exact Nat.cast_inj.mp length
      rw [all] at fed accounts
      rw [all]
      exact ⟨progress, outputs, [], fed, accounts⟩
    | false =>
      have handed : (RecordStream.feedPending trial.wants trial.take
          (trial.options.admitted results ++ beyond) (trial.outset state)).value =
            (progress, beyond) := by
        rw [RecordStream.feedPending_append, fed, wanted]
        rfl
      rw [whole] at handed
      exact ⟨progress, outputs, beyond, handed, accounts⟩
  · right
    have inside : before.length < (trial.options.admitted results).length := by
      rw [same, List.length_append, List.length_cons]
      omega
    have within : (before.length : ℕ∞) < trial.options.bound :=
      lt_of_lt_of_le (Nat.cast_lt.mpr inside) (length ▸ min_le_left _ _)
    have first : trial.FirstFatal state before result error := ⟨within, peaceful, fatal⟩
    obtain ⟨progress, fed, failed, engine⟩ := feedPending_of_firstFatal first (rest ++ beyond)
    have split : results = before ++ result :: (rest ++ beyond) := by
      rw [← whole, same, List.append_assoc, List.cons_append]
    rw [split]
    exact ⟨before, result, rest ++ beyond, error, progress, rfl, first, fed, failed, engine⟩

/-- A pass that still wants more has not come to the first fatal result. -/
theorem length_le_of_wants
    {trial : Trial ε}
    {state : ε}
    {before rest first second : List RecordResult}
    {result : RecordResult}
    {error : EvalError}
    (firstFatal : trial.FirstFatal state before result error)
    (split : first ++ second = before ++ result :: rest)
    (wanted : trial.wants (RecordStream.feedPending trial.wants trial.take first
      (trial.outset state)).value.1 = true) :
    first.length ≤ before.length := by
  apply Nat.le_of_not_lt
  intro longer
  have throughFatal : before ++ [result] <+: first ++ second := by
    refine ⟨rest, ?_⟩
    rw [split, List.append_assoc, List.singleton_append]
  have reached : before ++ [result] <+: first := by
    refine List.prefix_of_prefix_length_le throughFatal (List.prefix_append first second) ?_
    rw [List.length_append, List.length_singleton]
    exact longer
  obtain ⟨others, same⟩ := reached
  rw [List.append_assoc, List.singleton_append] at same
  obtain ⟨progress, fed, failed, -⟩ := feedPending_of_firstFatal firstFatal others
  rw [← same, fed, wants_of_error failed] at wanted
  cases wanted

/-- A stream that brings a first fatal result makes the pass fail with its error. -/
theorem feedPulling_of_firstFatal
    {trial : Trial ε}
    {state : ε}
    {source : Source τ σ}
    {opened stand : σ}
    {items : List ItemResult}
    {before rest : List RecordResult}
    {result : RecordResult}
    {error : EvalError}
    (brings : source.Brings opened items stand)
    (split : before ++ result :: rest = items.flatMap trial.kind.results)
    (first : trial.FirstFatal state before result error) :
    ∃ fed,
      RecordStream.feedPulling source trial.wants trial.take
        (RecordStream.new trial.kind opened) (trial.outset state) = some fed ∧
      fed.value.1.error = some error := by
  obtain ⟨progress, fed, failed, -⟩ := feedPending_of_firstFatal first rest
  rw [split, ← RecordStream.handed_new trial.kind opened] at fed
  have bringsNew : source.Brings (RecordStream.new trial.kind opened).items items stand := brings
  have enough : trial.wants (RecordStream.handed trial.wants trial.take
      (RecordStream.new trial.kind opened) (trial.outset state) items).1 = false := by
    rw [fed]
    exact wants_of_error failed
  obtain ⟨run, isRun, reader⟩ :=
    RecordStream.feedPulling_of_brings bringsNew (trial.outset state) (Or.inl enough)
  refine ⟨run, isRun, ?_⟩
  rw [reader, fed]
  exact failed

/-- A pass that comes to an end has accounted for all that the limit admits, or has stopped at the
first fatal result and has left the stream where it found it. -/
theorem pass_outcome
    {trial : Trial ε}
    {state : ε}
    {source : Source τ σ}
    {opened : σ}
    {fed : Logged (Progress ε × RecordStream σ)}
    (isFed : RecordStream.feedPulling source trial.wants trial.take
      (RecordStream.new trial.kind opened) (trial.outset state) = some fed) :
    ∃ items stand,
      source.Brings opened items stand ∧
      ((∃ outputs,
        trial.Accounts state (trial.options.admitted (items.flatMap trial.kind.results)) outputs
          fed.value.1 ∧
        (trial.options.bound ≤ (items.flatMap trial.kind.results).length ∨
          source.Ends stand)) ∨
      (∃ before result rest error,
        items.flatMap trial.kind.results = before ++ result :: rest ∧
        trial.FirstFatal state before result error ∧
        fed.value.1.error = some error ∧
        fed.value.1.engine = trial.after state (before ++ [result]) ∧
        fed.value.2 = ⟨trial.kind, stand, rest, .streaming⟩ ∧
        ∀ earlier last, items = earlier ++ [last] →
          (earlier.flatMap trial.kind.results).length ≤ before.length)) := by
  obtain ⟨items, stand, feeds⟩ := RecordStream.feeds_of_feedPulling rfl isFed
  refine ⟨items, stand, feeds.brings, ?_⟩
  have reader := feeds.reader_eq
  have stops := feeds.stops
  rw [RecordStream.handed_new] at reader stops
  rcases trial.feedPending_cases state (items.flatMap trial.kind.results) with
    ⟨progress, outputs, rest, handed, accounts⟩ |
    ⟨before, result, rest, error, progress, split, first, handed, failed, engine⟩
  · left
    have isReader : fed.value.1 = progress := by rw [reader, handed]
    rw [← isReader] at accounts
    refine ⟨outputs, accounts, ?_⟩
    rcases stops with ⟨satisfied, -⟩ | ⟨-, ends, -⟩
    · left
      apply le_of_not_gt
      intro below
      have admitted : (trial.options.admitted
          (items.flatMap trial.kind.results)).length < trial.options.bound :=
        trial.options.length_admitted (items.flatMap trial.kind.results) ▸
          lt_of_le_of_lt (min_le_right _ _) below
      rw [accounts.wants_iff.mpr admitted] at satisfied
      cases satisfied
    · exact Or.inr ends
  · right
    rw [handed] at stops
    have isReader : fed.value.1 = progress := by rw [reader, handed]
    have stopped : trial.wants fed.value.1 = false := isReader ▸ wants_of_error failed
    have stream : fed.value.2 = ⟨trial.kind, stand, rest, .streaming⟩ := by
      rcases stops with ⟨-, left⟩ | ⟨wanted, -⟩
      · exact left
      · rw [stopped] at wanted
        cases wanted
    rw [isReader]
    refine ⟨before, result, rest, error, split, first, failed, engine, stream, ?_⟩
    intro earlier last same
    have wanted := feeds.needed earlier last same
    rw [RecordStream.handed_new] at wanted
    rw [same, List.flatMap_append] at split
    exact length_le_of_wants first split wanted

/-- The trial with an engine that keeps its bindings. -/
def recording (trial : Trial ε) : Trial (ε × List InputBinding) :=
  ⟨trial.kind, trial.engine.recording, trial.preprocessor, trial.options⟩

/-- The pass without the bindings that its engine has kept. -/
def unrecorded (progress : Progress (ε × List InputBinding)) : Progress ε :=
  ⟨progress.engine.1, progress.tally, progress.error⟩

/-- The bindings of the results, the last one first, are what the engine keeps. -/
theorem after_recording
    (trial : Trial ε)
    (state : ε)
    (given : List InputBinding)
    (results : List RecordResult) :
    trial.recording.after (state, given) results =
      (trial.after state results, (trial.bindings results).reverse ++ given) :=
  congrArg Prod.snd (Engine.runs_recording trial.engine state given (trial.bindings results))

theorem answers_recording
    (trial : Trial ε)
    (state : ε)
    (given : List InputBinding)
    (results : List RecordResult) :
    trial.recording.answers (state, given) results = trial.answers state results :=
  congrArg Prod.fst (Engine.runs_recording trial.engine state given (trial.bindings results))

/-- From the outset on, the bindings of the results are all that the engine keeps. -/
theorem after_recording_nil
    (trial : Trial ε)
    (state : ε)
    (results : List RecordResult) :
    trial.recording.after (state, []) results =
      (trial.after state results, (trial.bindings results).reverse) := by
  rw [after_recording, List.append_nil]

/-- What is fatal to an engine that keeps its bindings is what is fatal to the engine. -/
theorem fatal_recording
    {trial : Trial ε}
    {state : ε}
    {given : List InputBinding}
    {result : RecordResult}
    {error : EvalError} :
    trial.recording.Fatal (state, given) result error ↔ trial.Fatal state result error := by
  constructor
  · intro fatal
    exact fatal.of_same rfl (fun _ => rfl) rfl fun _ => rfl
  · intro fatal
    exact fatal.of_same rfl (fun _ => rfl) rfl fun _ => rfl

theorem peaceful_recording
    {trial : Trial ε}
    {state : ε}
    {given : List InputBinding}
    {results : List RecordResult} :
    trial.recording.Peaceful (state, given) results ↔ trial.Peaceful state results := by
  simp only [Peaceful, after_recording, fatal_recording]

theorem firstFatal_recording
    {trial : Trial ε}
    {state : ε}
    {given : List InputBinding}
    {before : List RecordResult}
    {result : RecordResult}
    {error : EvalError}
    (first : trial.recording.FirstFatal (state, given) before result error) :
    trial.FirstFatal state before result error where
  admitted := first.admitted
  peaceful := peaceful_recording.mp first.peaceful
  fatal := by
    have fatal := first.fatal
    rw [after_recording] at fatal
    exact fatal_recording.mp fatal

/-- The accounts of an engine that keeps its bindings are those of the engine. -/
theorem Accounts.unrecorded
    {trial : Trial ε}
    {state : ε}
    {given : List InputBinding}
    {results : List RecordResult}
    {outputs : List Outputs}
    {progress : Progress (ε × List InputBinding)}
    (accounts : trial.recording.Accounts (state, given) results outputs progress) :
    trial.Accounts state results outputs (unrecorded progress) where
  noError := accounts.noError
  engine := congrArg Prod.fst (accounts.engine.trans (trial.after_recording state given results))
  dataset := accounts.dataset
  seen := accounts.seen
  evaluated := accounts.evaluated
  skipped := accounts.skipped
  counted := accounts.counted
  unskipped := accounts.unskipped
  bound := accounts.bound
  answered := (trial.answers_recording state given results).symm.trans accounts.answered
  labelled := accounts.labelled
  correct := accounts.correct

/-- Keeping its bindings does not change what the engine makes of a record. -/
theorem judge_recording
    (trial : Trial ε)
    (state : ε × List InputBinding)
    (record : Record) :
    trial.judge state.1 record =
      ((trial.recording.judge state record).1, (trial.recording.judge state record).2.1) := by
  cases isBinding : trial.binding record with
  | error error =>
    have noBinding : trial.recording.binding record = .error error := isBinding
    rw [judge_of_unbound isBinding, judge_of_unbound noBinding]
  | ok binding =>
    have isRecorded : trial.recording.binding record = .ok binding := isBinding
    have kept := trial.after_recording state.1 state.2 [.ok record]
    cases answered : (trial.engine.run state.1 binding).1 with
    | error cause =>
      have failed : (trial.recording.engine.run state binding).1 = .error cause := answered
      rw [judge_of_failed_run isBinding answered, judge_of_failed_run isRecorded failed, kept]
    | ok outputs =>
      have succeeded : (trial.recording.engine.run state binding).1 = .ok outputs := answered
      rw [judge_of_answer isBinding answered, judge_of_answer isRecorded succeeded, kept]
      rfl

theorem take_recording
    (trial : Trial ε)
    (progress : Progress (ε × List InputBinding))
    (result : RecordResult) :
    (trial.take (unrecorded progress) result).value =
      unrecorded (trial.recording.take progress result).value := by
  cases result with
  | error error =>
    cases error with
    | malformedRecord dataset flaw =>
      by_cases skipped : trial.options.skipMalformed = true
      · have skippedToo : trial.recording.options.skipMalformed = true := skipped
        rw [take, take, if_pos skipped, if_pos skippedToo]
        rfl
      · have unskipped : ¬trial.recording.options.skipMalformed = true := skipped
        rw [take, take, if_neg skipped, if_neg unskipped]
        rfl
    | _ => rfl
  | ok record =>
    have same := trial.judge_recording progress.engine record
    rcases judged : trial.recording.judge progress.engine record with ⟨verdict, state⟩
    rw [judged] at same
    have judgedToo : trial.judge (unrecorded progress).engine record = (verdict, state.1) := same
    cases verdict with
    | error error =>
      simp only [take, judged, judgedToo]
      rfl
    | ok verdict =>
      simp only [take, judged, judgedToo]
      rfl

end Trial

/-- The trial that an evaluation puts the records of a set through. -/
def ValidationSet.trial
    (set : ValidationSet)
    (engine : Engine ε)
    (preprocessor : Preprocessor)
    (options : EvalOptions) : Trial ε :=
  ⟨set.kind, engine, preprocessor, options⟩

section Evaluate

variable {set : ValidationSet} {source : Source τ σ} {memory : τ} {engine : Engine ε} {state : ε}
  {preprocessor : Preprocessor} {options : EvalOptions}

/-- An evaluation is a pass over the stream that the source opens, if it opens one. -/
theorem evaluate_value :
    (evaluate set source memory engine state preprocessor options).run?.map Logged.value =
      match (source.openStream memory set.request).value.1 with
      | .error cause =>
        some ⟨.error (.dataset (.sourceUnavailable set.locator cause)), state, none⟩
      | .ok opened =>
        let trial := set.trial engine preprocessor options
        (RecordStream.feedPulling source trial.wants trial.take
          (RecordStream.new set.kind opened) (trial.outset state)).map fun fed =>
            ⟨fed.value.1.outcome, fed.value.1.engine, some fed.value.2⟩ := by
  rcases opening : (source.openStream memory set.request).value with ⟨opened, left⟩
  rw [evaluate, Course.run?_bind, Course.run?_lift, Option.bind_some, Option.map_map]
  cases opened with
  | error cause =>
    have unopened : (set.openWith source memory).value =
        (.error (.sourceUnavailable set.locator cause), left) := by
      simp only [ValidationSet.openWith, Logged.value_bind, opening]
      rfl
    simp only [unopened]
    rfl
  | ok items =>
    have isOpened : (set.openWith source memory).value =
        (.ok (RecordStream.new set.kind items), left) := by
      simp only [ValidationSet.openWith, Logged.value_bind, opening]
      rfl
    simp only [isOpened]
    rw [Course.run?_bind, RecordStream.run?_feed_new, Option.map_bind]
    exact Option.map_eq_bind.symm

/-- An evaluation whose source does not open has made no pass. -/
theorem evaluate_of_unopened
    {cause : Failure}
    (unopened : (source.openStream memory set.request).value.1 = .error cause) :
    ∃ run,
      (evaluate set source memory engine state preprocessor options).run? = some run ∧
      run.value = ⟨.error (.dataset (.sourceUnavailable set.locator cause)), state, none⟩ := by
  have value := @evaluate_value _ _ _ set source memory engine state preprocessor options
  rw [unopened] at value
  exact Option.map_eq_some_iff.mp value

/-- An evaluation comes to what a pass over the opened stream comes to. -/
theorem evaluate_of_feedPulling
    {opened : σ}
    (isOpened : (source.openStream memory set.request).value.1 = .ok opened)
    {fed : Logged (Progress ε × RecordStream σ)}
    (isFed : RecordStream.feedPulling source (set.trial engine preprocessor options).wants
      (set.trial engine preprocessor options).take (RecordStream.new set.kind opened)
      ((set.trial engine preprocessor options).outset state) = some fed) :
    ∃ run,
      (evaluate set source memory engine state preprocessor options).run? = some run ∧
      run.value = ⟨fed.value.1.outcome, fed.value.1.engine, some fed.value.2⟩ := by
  have value := @evaluate_value _ _ _ set source memory engine state preprocessor options
  simp only [isOpened, isFed, Option.map_some] at value
  exact Option.map_eq_some_iff.mp value

/-- An evaluation over a stream that ends comes to an end, where the record results of the stream
leave its pass. -/
theorem evaluate_of_ends
    {opened stand : σ}
    {items : List ItemResult}
    (isOpened : (source.openStream memory set.request).value.1 = .ok opened)
    (brings : source.Brings opened items stand)
    (ends : source.Ends stand) :
    ∃ run progress,
      (evaluate set source memory engine state preprocessor options).run? = some run ∧
      progress = (RecordStream.feedPending (set.trial engine preprocessor options).wants
        (set.trial engine preprocessor options).take (items.flatMap set.kind.results)
        ((set.trial engine preprocessor options).outset state)).value.1 ∧
      run.value.outcome = progress.outcome ∧
      run.value.engine = progress.engine := by
  have bringsNew : source.Brings (RecordStream.new set.kind opened).items items stand := brings
  obtain ⟨fed, isFed, reader⟩ := RecordStream.feedPulling_of_brings bringsNew
    ((set.trial engine preprocessor options).outset state) (Or.inr ends)
  obtain ⟨run, comes, value⟩ := evaluate_of_feedPulling isOpened isFed
  refine ⟨run, fed.value.1, comes, reader, ?_, ?_⟩
  · rw [value]
  · rw [value]

/-- What an evaluation that comes to an end has come to. -/
theorem evaluate_cases
    {run : Logged (Evaluation ε σ)}
    (comes : (evaluate set source memory engine state preprocessor options).run? = some run) :
    (∃ cause,
      (source.openStream memory set.request).value.1 = .error cause ∧
      run.value = ⟨.error (.dataset (.sourceUnavailable set.locator cause)), state, none⟩) ∨
    (∃ opened fed,
      (source.openStream memory set.request).value.1 = .ok opened ∧
      RecordStream.feedPulling source (set.trial engine preprocessor options).wants
        (set.trial engine preprocessor options).take (RecordStream.new set.kind opened)
        ((set.trial engine preprocessor options).outset state) = some fed ∧
      run.value = ⟨fed.value.1.outcome, fed.value.1.engine, some fed.value.2⟩) := by
  have value := @evaluate_value _ _ _ set source memory engine state preprocessor options
  rw [comes, Option.map_some] at value
  cases opening : (source.openStream memory set.request).value.1 with
  | error cause =>
    rw [opening] at value
    exact Or.inl ⟨cause, rfl, Option.some.inj value⟩
  | ok opened =>
    rw [opening] at value
    obtain ⟨fed, isFed, same⟩ := Option.map_eq_some_iff.mp value.symm
    exact Or.inr ⟨opened, fed, rfl, isFed, same.symm⟩

/-- Keeping its bindings does not change what the engine comes to. -/
theorem evaluate_recording
    {run : Logged (Evaluation ε σ)}
    (comes : (evaluate set source memory engine state preprocessor options).run? = some run)
    (given : List InputBinding) :
    ∃ recorded,
      (evaluate set source memory engine.recording (state, given) preprocessor options).run? =
        some recorded ∧
      run.value = ⟨recorded.value.outcome, recorded.value.engine.1, recorded.value.stream⟩ := by
  rcases evaluate_cases comes with ⟨cause, unopened, same⟩ | ⟨opened, fed, isOpened, isFed, same⟩
  · obtain ⟨recorded, isRecorded, value⟩ := evaluate_of_unopened unopened
    refine ⟨recorded, isRecorded, ?_⟩
    rw [same, value]
  · let trial := set.trial engine preprocessor options
    have sameWants : ∀ progress,
        trial.wants (Trial.unrecorded progress) = trial.recording.wants progress := fun _ => rfl
    obtain ⟨whole, isWhole, shown⟩ := RecordStream.feedPulling_shown sameWants
      trial.take_recording (show RecordStream.feedPulling source trial.wants trial.take
        (RecordStream.new set.kind opened)
        (Trial.unrecorded (trial.recording.outset (state, given))) = some fed from isFed)
    obtain ⟨recorded, isRecorded, value⟩ := evaluate_of_feedPulling isOpened isWhole
    refine ⟨recorded, isRecorded, ?_⟩
    rw [same, value, shown]
    rfl

end Evaluate

end Holdout
