import Holdout.Proofs.Evaluation.Counts

/-!
# When an evaluation fails

An evaluation fails if its source does not open, or at the first fatal record result that the
limit admits. Nothing happens behind that result: the engine is not run again, and the stream is
left where it was found.
-/

namespace Holdout

section Stopping

variable {set : ValidationSet} {source : Source τ σ} {memory : τ} {engine : Engine ε} {state : ε}
  {preprocessor : Preprocessor} {options : EvalOptions}

/-- A first fatal result makes the evaluation end with its error. -/
theorem evaluate_fails_of_firstFatal
    {opened : σ}
    (isOpened : (source.openStream memory set.request).value.1 = .ok opened)
    {before : List RecordResult}
    {result : RecordResult}
    {error : EvalError}
    (begins : source.BeginsWith set.kind opened (before ++ [result]))
    (first : (set.trial engine preprocessor options).FirstFatal state before result error) :
    ∃ run,
      (evaluate set source memory engine state preprocessor options).run? = some run ∧
      run.value.outcome = .error error := by
  obtain ⟨items, stand, brings, rest, split⟩ := begins
  rw [List.append_assoc, List.singleton_append] at split
  obtain ⟨fed, isFed, failed⟩ := Trial.feedPulling_of_firstFatal brings split first
  obtain ⟨run, comes, value⟩ := evaluate_of_feedPulling isOpened isFed
  refine ⟨run, comes, ?_⟩
  rw [value]
  simp only [Progress.outcome, failed]

/-- What has been done by an evaluation that has failed: nothing at all if its source does not
open; otherwise the engine has been run on the bindings up to the first fatal result, and the
stream stands behind the item that brought it. -/
theorem evaluate_failed
    {run : Logged (Evaluation ε σ)}
    {error : EvalError}
    (comes : (evaluate set source memory engine state preprocessor options).run? = some run)
    (failed : run.value.outcome = .error error) :
    (∃ cause,
      (source.openStream memory set.request).value.1 = .error cause ∧
      error = .dataset (.sourceUnavailable set.locator cause) ∧
      run.value.engine = state ∧
      run.value.stream = none) ∨
    (∃ opened items stand before result rest,
      (source.openStream memory set.request).value.1 = .ok opened ∧
      source.Brings opened items stand ∧
      items.flatMap set.kind.results = before ++ result :: rest ∧
      (∀ earlier last, items = earlier ++ [last] →
        (earlier.flatMap set.kind.results).length ≤ before.length) ∧
      (set.trial engine preprocessor options).FirstFatal state before result error ∧
      run.value.engine =
        (set.trial engine preprocessor options).after state (before ++ [result]) ∧
      run.value.stream = some ⟨set.kind, stand, rest, .streaming⟩) := by
  rcases evaluate_cases comes with ⟨cause, unopened, same⟩ | ⟨opened, fed, isOpened, isFed, same⟩
  · left
    rw [same] at failed ⊢
    exact ⟨cause, unopened, (Except.error.inj failed).symm, rfl, rfl⟩
  · right
    rw [same] at failed ⊢
    obtain ⟨items, stand, brings, pass⟩ := Trial.pass_outcome isFed
    rcases pass with
      ⟨outputs, accounts, -⟩ | ⟨before, result, rest, fatal, split, first, stopped, engineLeft,
        stream, needed⟩
    · simp only [Progress.outcome, accounts.noError] at failed
      cases failed
    · have same : fatal = error := by
        simp only [Progress.outcome, stopped] at failed
        exact Except.error.inj failed
      rw [same] at first
      exact ⟨opened, items, stand, before, result, rest, isOpened, brings, split, needed, first,
        engineLeft, congrArg some stream⟩

end Stopping

/-- An evaluation fails if and only if its source does not open or there is a first fatal result
among those that the limit admits, and it fails with the error of that result.

The engine has then been run on the bindings of the records up to that result and on no others,
which shows in what an engine that keeps its bindings has kept: those before the result have all
become bindings, and its own is among them if it has become one. No item has been pulled but those
needed to reach the result, and the results behind it are still pending. -/
theorem evaluate_stops_at_first_fatal
    (set : ValidationSet)
    (source : Source τ σ)
    (memory : τ)
    (engine : Engine ε)
    (state : ε)
    (preprocessor : Preprocessor)
    (options : EvalOptions) :
    (∀ error,
      (∃ run,
        (evaluate set source memory engine state preprocessor options).run? = some run ∧
        run.value.outcome = .error error) ↔
      (∃ cause,
        (source.openStream memory set.request).value.1 = .error cause ∧
        error = .dataset (.sourceUnavailable set.locator cause)) ∨
      (∃ opened before result,
        (source.openStream memory set.request).value.1 = .ok opened ∧
        source.BeginsWith set.kind opened (before ++ [result]) ∧
        (set.trial engine preprocessor options).FirstFatal state before result error)) ∧
    (∀ run error,
      (evaluate set source memory engine state preprocessor options).run? = some run →
      run.value.outcome = .error error →
      ∃ recorded,
        (evaluate set source memory engine.recording (state, []) preprocessor options).run? =
          some recorded ∧
        recorded.value.outcome = .error error ∧
        ((∃ cause,
          (source.openStream memory set.request).value.1 = .error cause ∧
          error = .dataset (.sourceUnavailable set.locator cause) ∧
          recorded.value.engine = (state, []) ∧
          run.value.stream = none) ∨
        (∃ opened items stand before result rest,
          (source.openStream memory set.request).value.1 = .ok opened ∧
          source.Brings opened items stand ∧
          items.flatMap set.kind.results = before ++ result :: rest ∧
          (∀ earlier last, items = earlier ++ [last] →
            (earlier.flatMap set.kind.results).length ≤ before.length) ∧
          (set.trial engine preprocessor options).FirstFatal state before result error ∧
          ((records before).map fun record =>
            set.kind.transform engine.inputNames record preprocessor) =
              ((set.trial engine preprocessor options).bindings before).map .ok ∧
          recorded.value.engine =
            (run.value.engine,
              ((set.trial engine preprocessor options).bindings (before ++ [result])).reverse) ∧
          run.value.stream = some ⟨set.kind, stand, rest, .streaming⟩))) := by
  constructor
  · intro error
    constructor
    · intro ⟨run, comes, failed⟩
      rcases evaluate_failed comes failed with
        ⟨cause, unopened, same, -⟩ |
        ⟨opened, items, stand, before, result, rest, isOpened, brings, split, -, first, -⟩
      · exact Or.inl ⟨cause, unopened, same⟩
      · refine Or.inr ⟨opened, before, result, isOpened, ⟨items, stand, brings, rest, ?_⟩, first⟩
        rw [split, List.append_assoc, List.singleton_append]
    · rintro (⟨cause, unopened, same⟩ | ⟨opened, before, result, isOpened, begins, first⟩)
      · obtain ⟨run, comes, value⟩ := evaluate_of_unopened unopened
        refine ⟨run, comes, ?_⟩
        rw [value, same]
      · exact evaluate_fails_of_firstFatal isOpened begins first
  · intro run error comes failed
    obtain ⟨recorded, isRecorded, value⟩ := evaluate_recording comes []
    rw [value] at failed ⊢
    refine ⟨recorded, isRecorded, failed, ?_⟩
    rcases evaluate_failed isRecorded failed with
      ⟨cause, unopened, isError, engineLeft, stream⟩ |
      ⟨opened, items, stand, before, result, rest, isOpened, brings, split, needed, first,
        engineLeft, stream⟩
    · exact Or.inl ⟨cause, unopened, isError, engineLeft, stream⟩
    · have firstFatal : (set.trial engine preprocessor options).FirstFatal state before result
          error := Trial.firstFatal_recording first
      refine Or.inr ⟨opened, items, stand, before, result, rest, isOpened, brings, split, needed,
        firstFatal, firstFatal.bound, ?_, stream⟩
      have kept : recorded.value.engine =
          ((set.trial engine preprocessor options).after state (before ++ [result]),
            ((set.trial engine preprocessor options).bindings (before ++ [result])).reverse) :=
        engineLeft.trans
          ((set.trial engine preprocessor options).after_recording_nil state (before ++ [result]))
      rw [kept]

/-- An engine that runs once and then fails, and counts its runs. -/
def tiring : Engine Nat where
  inputs := [("pixels", imageInputShape)]
  outputs := []
  run count _ := (if count = 0 then .ok NameMap.empty else .error .noImages, count + 1)

/-- Three images without labels. -/
def threeImages : List Item :=
  ["n01", "n02", "n03"].map fun key => .sample (.ofMembers key [("jpeg", ⟨#[1]⟩)])

/-- The results of images without labels. -/
def imageResults (keys : List String) : List RecordResult :=
  keys.map fun key => .ok (.image ⟨key, ⟨#[1]⟩, none⟩)

/-- What the engine is given for an image. -/
def darkness : InputBinding := NameMap.empty.insert "pixels" (Tensor.zeros .u8 imageInputShape)

/-- The second run fails, so that the engine has been run on the first two images and not on the
third. -/
theorem evaluate_stops_at_second_run :
    ∃ run recorded,
      (evaluate ⟨.imageNet, "images.tar"⟩ (.fixed threeImages) () tiring 0 blindness
        ⟨none, true⟩).run? = some run ∧
      run.value.outcome = .error (.failure .noImages) ∧
      (evaluate ⟨.imageNet, "images.tar"⟩ (.fixed threeImages) () tiring.recording (0, []) blindness
        ⟨none, true⟩).run? = some recorded ∧
      recorded.value.engine = (run.value.engine, [darkness, darkness]) := by
  let trial := ValidationSet.trial ⟨.imageNet, "images.tar"⟩ tiring blindness ⟨none, true⟩
  have stops := evaluate_stops_at_first_fatal ⟨.imageNet, "images.tar"⟩ (.fixed threeImages) ()
    tiring 0 blindness ⟨none, true⟩
  have begins : (Source.fixed threeImages).BeginsWith .imageNet (threeImages.map .ok)
      (imageResults ["n01"] ++ [.ok (.image ⟨"n02", ⟨#[1]⟩, none⟩)]) :=
    ⟨(threeImages.take 2).map .ok, _, .item rfl (.item rfl (.nothing _)), List.prefix_refl _⟩
  have names : tiring.inputNames = ["pixels"] := List.mergeSort_singleton "pixels"
  have bound (key : String) : trial.binding (.image ⟨key, ⟨#[1]⟩, none⟩) = .ok darkness := by
    simp only [trial, Trial.binding, ValidationSet.trial, names]
    rfl
  have bindings (keys : List String) :
      trial.bindings (imageResults keys) = keys.map fun _ => darkness := by
    induction keys with
    | nil => rfl
    | cons key rest inductionHypothesis =>
      have split : imageResults (key :: rest) = imageResults [key] ++ imageResults rest := rfl
      have single : trial.bindings (imageResults [key]) = [darkness] :=
        trial.bindings_of_bound (bound key)
      rw [split, Trial.bindings_append, single, inductionHypothesis]
      rfl
  have ranOnce : (trial.engine.run (trial.after 0 (imageResults ["n01"])) darkness).1 =
      .error .noImages := by
    rw [Trial.after, bindings]
    rfl
  have peaceful : trial.Peaceful 0 ([] ++ imageResults ["n01"]) := by
    refine Trial.peaceful_snoc.mpr ⟨trial.peaceful_nil 0, fun error fatal => ?_⟩
    cases fatal with
    | transform unbound => cases (bound "n01").symm.trans unbound
    | run isBound failed => cases failed
    | scores isBound _ isLabelled => cases isLabelled
  have first : trial.FirstFatal 0 (imageResults ["n01"]) (.ok (.image ⟨"n02", ⟨#[1]⟩, none⟩))
      (.failure .noImages) :=
    ⟨WithTop.coe_lt_top 1, peaceful, .run (bound "n02") ranOnce⟩
  obtain ⟨run, comes, failed⟩ := (stops.1 _).mpr (Or.inr ⟨_, _, _, rfl, begins, first⟩)
  obtain ⟨recorded, isRecorded, -, ⟨_, unopened, -⟩ | ⟨opened, items, stand, before, result, rest,
    isOpened, brings, split, -, firstToo, -, kept, -⟩⟩ := stops.2 run _ comes failed
  · cases unopened
  · have beginsToo : (Source.fixed threeImages).BeginsWith .imageNet opened (before ++ [result]) := by
      refine ⟨items, stand, brings, rest, ?_⟩
      rw [List.append_assoc, List.singleton_append]
      exact split.symm
    obtain rfl : threeImages.map .ok = opened := Except.ok.inj isOpened
    have same : before = imageResults ["n01"] ∧ result = .ok (.image ⟨"n02", ⟨#[1]⟩, none⟩) := by
      rcases Nat.le_total (before ++ [result]).length 2 with shorter | longer
      · exact firstToo.eq_of_prefix first (beginsToo.prefix_of_length_le begins shorter)
      · obtain ⟨sameBefore, sameResult⟩ :=
          first.eq_of_prefix firstToo (begins.prefix_of_length_le beginsToo longer)
        exact ⟨sameBefore.symm, sameResult.symm⟩
    rw [same.1, same.2] at kept
    exact ⟨run, recorded, comes, failed, isRecorded,
      kept.trans (congrArg (run.value.engine, ·.reverse) (bindings ["n01", "n02"]))⟩

end Holdout
