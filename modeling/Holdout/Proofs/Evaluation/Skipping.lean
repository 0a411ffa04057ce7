import Holdout.Proofs.Evaluation.Agreement
import Holdout.Proofs.Sieve

/-!
# What skipping does to an evaluation

An evaluation that skips malformed records is one that does not, over the stream without its
malformed items. Only what is counted as seen and as skipped tells them apart.
-/

namespace Holdout

/-- The counts with so many malformed records more. -/
def Tally.skipMore (tally : Tally) (more : Nat) : Tally :=
  { tally with seen := tally.seen + more, skipped := tally.skipped + more }

theorem Tally.add_skipMore (tally : Tally) (more : Nat) (verdict : Option Bool) :
    (tally.skipMore more).add verdict = (tally.add verdict).skipMore more := by
  simp only [Tally.add, Tally.skipMore, Nat.add_right_comm _ more]

/-- The pass with so many malformed records more. -/
def Progress.skipMore (progress : Progress ε) (more : Nat) : Progress ε :=
  { progress with tally := progress.tally.skipMore more }

theorem Progress.outcome_skipMore (progress : Progress ε) (more : Nat) :
    (progress.skipMore more).outcome = progress.outcome.map (·.skipMore more) := by
  cases failed : progress.error with
  | none => simp [outcome, skipMore, failed, Except.map]
  | some error => simp [outcome, skipMore, failed, Except.map]

/-- How many malformed records have been skipped shows in what a pass comes to if it has not
failed. -/
theorem Progress.result_skipMore
    {progress : Progress ε}
    {more counted : Nat}
    (unfailed : progress.error = none → more = counted) :
    (progress.skipMore more).result =
      (progress.outcome.map (·.skipMore counted), progress.engine) := by
  rw [result, outcome_skipMore]
  cases failed : progress.error with
  | none =>
    rw [unfailed failed]
    rfl
  | some error =>
    have isOutcome : progress.outcome = .error error := by rw [outcome, failed]
    rw [isOutcome]
    rfl

namespace Trial

/-- The trial with no limit that skips malformed records. -/
def skipping (trial : Trial ε) : Trial ε := { trial with options := ⟨none, true⟩ }

/-- The trial with no limit that fails at a malformed record. -/
def strict (trial : Trial ε) : Trial ε := { trial with options := ⟨none, false⟩ }

section Skipping

variable {trial : Trial ε} {progress : Progress ε} {result : RecordResult}

theorem wants_strict (progress : Progress ε) :
    trial.strict.wants progress = progress.error.isNone :=
  wants_of_no_limit rfl progress

/-- A pass that has had enough without a failure has come to the end. -/
theorem ended_of_unfailed
    (trial : Trial ε)
    {ended : Prop}
    (enough : trial.strict.wants progress = false ∨ ended)
    (unfailed : progress.error = none) :
    ended := by
  rw [wants_strict, unfailed] at enough
  exact enough.resolve_left (Bool.noConfusion ·)

/-- What has been skipped does not tell whether a pass goes on. -/
theorem wants_skipping (progress : Progress ε) (more : Nat) :
    trial.skipping.wants (progress.skipMore more) = trial.strict.wants progress := rfl

theorem take_skipping_of_malformed (malformed : isMalformed result = true) (more : Nat) :
    (trial.skipping.take (progress.skipMore more) result).value =
      progress.skipMore (more + 1) := by
  cases result with
  | ok record => cases malformed
  | error error =>
    cases error with
    | malformedRecord dataset flaw => rfl
    | _ => cases malformed

/-- What is made of any other result does not depend on what has been skipped. -/
theorem take_skipping (wellFormed : isMalformed result = false) (more : Nat) :
    (trial.skipping.take (progress.skipMore more) result).value =
      (trial.strict.take progress result).value.skipMore more := by
  cases result with
  | error error =>
    cases error with
    | malformedRecord dataset flaw => cases wellFormed
    | _ => rfl
  | ok record =>
    have same : trial.skipping.judge (progress.skipMore more).engine record =
        trial.strict.judge progress.engine record := rfl
    rcases judged : trial.strict.judge progress.engine record with ⟨verdict, state⟩
    cases verdict with
    | error error =>
      simp only [take, same, judged]
      rfl
    | ok verdict =>
      simp only [take, same, judged]
      exact congrArg (Progress.mk state · progress.error)
        (progress.tally.add_skipMore more verdict)

/-- A pass that skips stands where a strict pass stands after the results that are well-formed, but
for the counts; as long as nothing has failed it has skipped all the others. -/
theorem through_skipping (trial : Trial ε) (results : List RecordResult) (progress : Progress ε)
    (before : Nat) :
    ∃ more,
      trial.skipping.through results (progress.skipMore before) =
        (trial.strict.through (results.filter fun result => !isMalformed result)
          progress).skipMore more ∧
      ((trial.skipping.through results (progress.skipMore before)).error = none →
        more = before + results.countP isMalformed) := by
  induction results generalizing progress before with
  | nil => exact ⟨before, rfl, fun _ => rfl⟩
  | cons result rest inductionHypothesis =>
    cases wanted : trial.strict.wants progress with
    | false =>
      have satisfied : trial.skipping.wants (progress.skipMore before) = false :=
        (wants_skipping progress before).trans wanted
      rw [through_of_satisfied satisfied, through_of_satisfied wanted]
      refine ⟨before, rfl, ?_⟩
      intro noError
      have unfailed : progress.error = none := noError
      rw [wants_strict, unfailed] at wanted
      cases wanted
    | true =>
      have wantedToo : trial.skipping.wants (progress.skipMore before) = true :=
        (wants_skipping progress before).trans wanted
      rw [through_cons_of_wants wantedToo]
      cases malformed : isMalformed result with
      | true =>
        obtain ⟨more, same, counted⟩ := inductionHypothesis progress (before + 1)
        rw [take_skipping_of_malformed malformed, List.filter_cons_of_neg (by simp [malformed])]
        refine ⟨more, same, ?_⟩
        intro noError
        rw [counted noError, List.countP_cons_of_pos malformed]
        omega
      | false =>
        obtain ⟨more, same, counted⟩ :=
          inductionHypothesis (trial.strict.take progress result).value before
        rw [take_skipping malformed, List.filter_cons_of_pos (by simp [malformed]),
          through_cons_of_wants wanted]
        refine ⟨more, same, ?_⟩
        intro noError
        rw [counted noError, List.countP_cons_of_neg (by simp [malformed])]

/-- After any items the reader stands where a strict one stands after those that are not
malformed. -/
theorem after_skipping
    (trial : Trial ε)
    (source : Source τ σ)
    (place : σ)
    (sieved : Source υ ρ)
    (other : ρ)
    (state : ε)
    (items : List ItemResult) :
    ∃ more,
      (trial.skipping.reading source place state).after items =
        ((trial.strict.reading sieved other state).after
          (trial.kind.sieve items)).skipMore more ∧
      (((trial.strict.reading sieved other state).after (trial.kind.sieve items)).error = none →
        more = items.countP trial.kind.isMalformedItem) := by
  obtain ⟨more, same, counted⟩ :=
    through_skipping trial (items.flatMap trial.kind.results) (trial.outset state) 0
  rw [← SetKind.flatMap_sieve] at same
  rw [same, trial.kind.countP_flatMap_results, Nat.zero_add] at counted
  exact ⟨more, same, counted⟩

/-- A pass that skips comes to what a strict pass comes to over the stream without its malformed
items, with these counted as seen and as skipped. -/
theorem map_run?_reading_sieved
    {source : Source τ σ}
    {place : σ}
    {sieved : Source υ ρ}
    {other : ρ}
    (isSieved : source.Sieved place sieved other trial.kind)
    {removed : Nat}
    (isRemoved : ∀ items stand, source.Brings place items stand → source.Ends stand →
      items.countP trial.kind.isMalformedItem = removed)
    (state : ε) :
    (trial.skipping.reading source place state).run?.map (fun run => run.value.1.result) =
      (trial.strict.reading sieved other state).run?.map fun run =>
        (run.value.1.outcome.map (·.skipMore removed), run.value.1.engine) := by
  refine Reading.map_run?_eq Progress.result
    (fun progress : Progress ε =>
      (progress.outcome.map (·.skipMore removed), progress.engine)) ?_ ?_
  · intro items stand sufficient
    obtain ⟨more, same, counted⟩ := trial.after_skipping source place sieved other state items
    obtain ⟨rest, brings, ends⟩ := isSieved.forth items stand sufficient.brings
    have enough := sufficient.enough
    rw [same] at enough ⊢
    refine ⟨trial.kind.sieve items, rest, ⟨brings, enough.imp id ends⟩, ?_⟩
    apply Progress.result_skipMore
    intro unfailed
    rw [counted unfailed]
    exact isRemoved items stand sufficient.brings
      (trial.ended_of_unfailed enough unfailed)
  · intro others rest sufficient
    obtain ⟨items, stand, brings, kept, ends⟩ := isSieved.back others rest sufficient.brings
    obtain ⟨more, same, counted⟩ := trial.after_skipping source place sieved other state items
    have enough := sufficient.enough
    rw [← kept] at enough ⊢
    refine ⟨items, stand, ⟨brings, ?_⟩, ?_⟩
    · rw [same]
      exact enough.imp id ends
    · rw [same]
      apply Progress.result_skipMore
      intro unfailed
      rw [counted unfailed]
      exact isRemoved items stand brings
        (ends (trial.ended_of_unfailed enough unfailed))

end Skipping

end Trial

section Evaluate

variable {set : ValidationSet} {source : Source τ σ} {memory : τ} {sieved : Source υ ρ}
  {memorySieved : υ}

/-- The items of a stream that comes to an end have a number of malformed ones among them. -/
theorem exists_removed (source : Source τ σ) (kind : SetKind) (opening : Except Failure σ) :
    ∃ removed, ∀ opened items stand, opening = .ok opened →
      source.Brings opened items stand → source.Ends stand →
        items.countP kind.isMalformedItem = removed := by
  by_cases finite : ∃ opened items stand, opening = .ok opened ∧
      source.Brings opened items stand ∧ source.Ends stand
  · obtain ⟨opened, items, stand, isOpened, brings, ends⟩ := finite
    refine ⟨items.countP kind.isMalformedItem, ?_⟩
    intro openedToo others final isOpenedToo bringsOthers endsToo
    rw [isOpened] at isOpenedToo
    rw [← Except.ok.inj isOpenedToo] at bringsOthers
    rw [brings.eq_of_ends ends bringsOthers endsToo]
  · refine ⟨0, ?_⟩
    intro opened items stand isOpened brings ends
    exact absurd ⟨opened, items, stand, isOpened, brings, ends⟩ finite

/-- An evaluation that skips malformed records comes to what a strict one comes to over a source
without malformed items. -/
theorem evaluate_sieved
    (opens : source.OpensSieved sieved set.kind (source.openStream memory set.request).value.1
      (sieved.openStream memorySieved set.request).value.1)
    {removed : Nat}
    (isRemoved : ∀ opened items stand,
      (source.openStream memory set.request).value.1 = .ok opened →
        source.Brings opened items stand → source.Ends stand →
          items.countP set.kind.isMalformedItem = removed)
    (engine : Engine ε)
    (state : ε)
    (preprocessor : Preprocessor) :
    (evaluate set source memory engine state preprocessor ⟨none, true⟩).run?.map
        (fun run => run.value.result) =
      (evaluate set sieved memorySieved engine state preprocessor ⟨none, false⟩).run?.map
        fun run => (run.value.outcome.map (·.skipMore removed), run.value.engine) := by
  have shown : (fun run : Logged (Evaluation ε ρ) =>
      (run.value.outcome.map (·.skipMore removed), run.value.engine)) =
        Prod.map (Except.map (·.skipMore removed)) id ∘ fun run => run.value.result := rfl
  rw [shown, ← Option.map_map, evaluate_result, evaluate_result]
  generalize (source.openStream memory set.request).value.1 = opening at opens isRemoved
  generalize (sieved.openStream memorySieved set.request).value.1 = openingSieved at opens
  cases opens with
  | unopened cause => rfl
  | @opened place other isSieved =>
    have passes := (set.trial engine preprocessor ⟨none, true⟩).map_run?_reading_sieved isSieved
      (fun items stand => isRemoved place items stand rfl) state
    refine passes.trans ?_
    simp only [Option.map_map]
    rfl

end Evaluate

/-- An evaluation that skips malformed records and one that does not, over a source without the
malformed items, succeed or fail alike, with the same error and the same bindings.

If they succeed the counts differ by the malformed items among all items of the stream, which are
counted as seen and as skipped. -/
theorem evaluate_skipping_leaves_out_malformed
    {set : ValidationSet}
    {source : Source τ σ}
    {memory : τ}
    {sieved : Source υ ρ}
    {memorySieved : υ}
    (opens : source.OpensSieved sieved set.kind (source.openStream memory set.request).value.1
      (sieved.openStream memorySieved set.request).value.1)
    (engine : Engine ε)
    (state : ε)
    (preprocessor : Preprocessor) :
    ∃ removed,
      ((evaluate set source memory engine state preprocessor ⟨none, true⟩).run?.map
          (fun run => run.value.result) =
        (evaluate set sieved memorySieved engine state preprocessor ⟨none, false⟩).run?.map
          fun run => (run.value.outcome.map (·.skipMore removed), run.value.engine)) ∧
      ((evaluate set source memory engine.recording (state, []) preprocessor
          ⟨none, true⟩).run?.map (fun run => run.value.result) =
        (evaluate set sieved memorySieved engine.recording (state, []) preprocessor
          ⟨none, false⟩).run?.map
            fun run => (run.value.outcome.map (·.skipMore removed), run.value.engine)) ∧
      (∀ run tally,
        (evaluate set source memory engine state preprocessor ⟨none, true⟩).run? = some run →
        run.value.outcome = .ok tally →
        ∃ opened items stand,
          (source.openStream memory set.request).value.1 = .ok opened ∧
          source.Brings opened items stand ∧
          source.Ends stand ∧
          items.countP set.kind.isMalformedItem = removed) := by
  obtain ⟨removed, isRemoved⟩ :=
    exists_removed source set.kind (source.openStream memory set.request).value.1
  refine ⟨removed, evaluate_sieved opens isRemoved .., evaluate_sieved opens isRemoved .., ?_⟩
  intro run tally comes succeeded
  obtain ⟨opened, reading, counted, stream, items, stand, isOpened, isReading, -, -, -,
    sufficient, noError, -⟩ := counted_of_evaluate comes succeeded
  rw [isReading] at sufficient noError
  have ends : source.Ends stand :=
    (set.trial engine preprocessor ⟨none, true⟩).ended_of_unfailed sufficient.enough noError
  exact ⟨opened, items, stand, isOpened, sufficient.brings, ends,
    isRemoved opened items stand isOpened sufficient.brings ends⟩

/-- A row that is no article, an article with a question, and a sample. -/
def mixed : List ItemResult :=
  [.ok (.row .null), .ok (.row (QuestionRecord.article [⟨"Rome was built.", "In a day?"⟩])),
    .ok (.sample (.new "n01"))]

/-- Two malformed items are left out, and one question is asked either way. -/
theorem evaluate_skips_two_items :
    ∃ run strict,
      (evaluate ⟨.squad, "dev.json"⟩ (.scripted fun _ => .ok mixed) 0 idle 0 wordlessness
        ⟨none, true⟩).run? = some run ∧
      (evaluate ⟨.squad, "dev.json"⟩ (.scripted fun _ => .ok (SetKind.squad.sieve mixed)) 0 idle 0
        wordlessness ⟨none, false⟩).run? = some strict ∧
      run.value.outcome = .ok ⟨"squad-v1.1", 3, 1, 2, 0, 0⟩ ∧
      strict.value.outcome = .ok ⟨"squad-v1.1", 1, 1, 0, 0, 0⟩ ∧
      run.value.engine = strict.value.engine := by
  have sieved := Source.sieved_scripted (fun _ => .ok mixed)
    (fun _ => .ok (SetKind.squad.sieve mixed)) .squad mixed
  obtain ⟨removed, same, -, counted⟩ :=
    @evaluate_skipping_leaves_out_malformed _ _ _ _ _ ⟨.squad, "dev.json"⟩
      (.scripted fun _ => .ok mixed) 0 (.scripted fun _ => .ok (SetKind.squad.sieve mixed)) 0
      (.opened sieved) idle 0 wordlessness
  obtain ⟨strict, progress, comes, isProgress, outcome, -⟩ :
      ∃ strict progress, (evaluate ⟨.squad, "dev.json"⟩
        (.scripted fun _ => .ok (SetKind.squad.sieve mixed)) 0 idle 0 wordlessness
        ⟨none, false⟩).run? = some strict ∧ _ :=
    evaluate_of_ends rfl (Source.brings_scripted _ _) rfl
  have succeeded : strict.value.outcome = .ok ⟨"squad-v1.1", 1, 1, 0, 0, 0⟩ := by
    rw [outcome, isProgress]
    decide +kernel
  rw [comes, Option.map_some] at same
  obtain ⟨run, isRun, result⟩ := Option.map_eq_some_iff.mp same
  have isOutcome : run.value.outcome =
      .ok (Tally.skipMore ⟨"squad-v1.1", 1, 1, 0, 0, 0⟩ removed) := by
    refine (congrArg Prod.fst result).trans ?_
    rw [succeeded]
    rfl
  obtain ⟨opened, items, stand, isOpened, brings, ends, two⟩ := counted run _ isRun isOutcome
  have all : items = mixed := by
    rw [← Except.ok.inj isOpened] at brings
    exact brings.eq_of_ends ends (Source.brings_scripted _ mixed) rfl
  have isTwo : removed = 2 := by
    rw [← two, all]
    decide +kernel
  rw [isTwo] at isOutcome
  exact ⟨run, strict, isRun, comes, isOutcome, succeeded, congrArg Prod.snd result⟩

end Holdout
