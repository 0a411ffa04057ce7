import Holdout.Proofs.Evaluation.Pass

/-!
# What the counts of an evaluation say

The counts of an evaluation that succeeds are those of what has happened: of the first record
results of the stream, as many as there are or as the limit admits, and of the runs that the
well-formed ones among them were put through.
-/

namespace Holdout

/-- If pulling stopped at the limit or at the end of the stream, the results that the limit admits
are as many as there are or as it allows. -/
theorem length_admitted_eq_min
    {source : Source τ σ}
    {opened stand : σ}
    {items : List ItemResult}
    (kind : SetKind)
    (options : EvalOptions)
    (brings : source.Brings opened items stand)
    (stops : options.bound ≤ (items.flatMap kind.results).length ∨ source.Ends stand) :
    ((options.admitted (items.flatMap kind.results)).length : ℕ∞) =
      min options.bound (source.resultCount kind opened) := by
  rw [options.length_admitted]
  rcases stops with limited | ends
  · have begins : source.BeginsWith kind opened (items.flatMap kind.results) :=
      ⟨items, stand, brings, List.prefix_refl _⟩
    rw [min_eq_left limited, min_eq_left (limited.trans begins.length_le_resultCount)]
  · rw [Source.resultCount_of_ends brings ends]

/-- An evaluation that succeeds has counted exactly what has happened.

The results are the first of the stream that was opened, up to its end or to the limit. The
bindings are those of the well-formed records among them, in order, and the engine has been run on
these and on no others, which shows in what an engine that keeps its bindings has kept. -/
theorem evaluate_counts_what_happened
    {set : ValidationSet}
    {source : Source τ σ}
    {memory : τ}
    {engine : Engine ε}
    {state : ε}
    {preprocessor : Preprocessor}
    {options : EvalOptions}
    {run : Logged (Evaluation ε σ)}
    {tally : Tally}
    (comes : (evaluate set source memory engine state preprocessor options).run? = some run)
    (succeeded : run.value.outcome = .ok tally) :
    ∃ opened results bindings outputs recorded,
      (source.openStream memory set.request).value.1 = .ok opened ∧
      source.BeginsWith set.kind opened results ∧
      results.length = tally.seen ∧
      (tally.seen : ℕ∞) = min options.bound (source.resultCount set.kind opened) ∧
      tally.dataset = set.name ∧
      tally.seen = tally.evaluated + tally.skipped ∧
      tally.skipped = results.countP isMalformed ∧
      (options.skipMalformed = false → tally.skipped = 0) ∧
      ((records results).map fun record =>
        set.kind.transform engine.inputNames record preprocessor) = bindings.map .ok ∧
      bindings.length = tally.evaluated ∧
      engine.runs state bindings = (outputs.map .ok, run.value.engine) ∧
      (evaluate set source memory engine.recording (state, []) preprocessor options).run? =
        some recorded ∧
      recorded.value.outcome = .ok tally ∧
      recorded.value.engine = (run.value.engine, bindings.reverse) ∧
      tally.labelled = ((records results).zip outputs).countP
        (set.trial engine preprocessor options).isLabelled ∧
      tally.correct = ((records results).zip outputs).countP
        (set.trial engine preprocessor options).isCorrect := by
  let trial := set.trial engine preprocessor options
  obtain ⟨recorded, isRecorded, value⟩ := evaluate_recording comes []
  rw [value] at succeeded
  rcases evaluate_cases isRecorded with ⟨cause, -, failed⟩ | ⟨opened, fed, isOpened, isFed, same⟩
  · rw [failed] at succeeded
    cases succeeded
  · have passed : RecordStream.feedPulling source trial.recording.wants trial.recording.take
        (RecordStream.new trial.recording.kind opened)
        (trial.recording.outset (state, [])) = some fed := isFed
    rw [same] at succeeded
    obtain ⟨items, stand, brings, pass⟩ := Trial.pass_outcome passed
    rcases pass with
      ⟨outputs, recordedAccounts, stops⟩ | ⟨before, result, rest, error, -, -, failed, -⟩
    · obtain ⟨results, isResults⟩ :
          ∃ results, results = options.admitted (items.flatMap set.kind.results) := ⟨_, rfl⟩
      have number := length_admitted_eq_min set.kind options brings stops
      have begins : source.BeginsWith set.kind opened results :=
        ⟨items, stand, brings, isResults ▸ options.admitted_prefix _⟩
      change trial.recording.Accounts _ (options.admitted (items.flatMap set.kind.results)) _ _
        at recordedAccounts
      rw [← isResults] at number recordedAccounts
      have kept : fed.value.1 =
          ⟨(trial.after state results, (trial.bindings results).reverse), tally, none⟩ := by
        have engineLeft := recordedAccounts.engine
        rw [trial.after_recording_nil] at engineLeft
        have isTally : fed.value.1.tally = tally := by
          simp only [Progress.outcome, recordedAccounts.noError] at succeeded
          exact Except.ok.inj succeeded
        rw [← engineLeft, ← isTally, ← recordedAccounts.noError]
      rw [kept] at recordedAccounts
      have accounts := recordedAccounts.unrecorded
      have seen : tally.seen = results.length := accounts.seen
      have evaluated : tally.evaluated = (records results).length := accounts.evaluated
      rw [value, same, kept]
      refine ⟨opened, results, trial.bindings results, outputs, recorded, isOpened, begins,
        seen.symm, seen ▸ number, accounts.dataset, accounts.counted, accounts.skipped,
        accounts.unskipped, accounts.bound, ?_, ?_, isRecorded, ?_, ?_, accounts.labelled,
        accounts.correct⟩
      · rw [evaluated, accounts.length_bindings]
      · exact Prod.ext accounts.answered rfl
      · rw [same, kept]
        rfl
      · rw [same, kept]
    · simp only [Progress.outcome, failed] at succeeded
      cases succeeded

/-- An engine that gives every image one score and counts its runs. -/
def singleScore : Engine Nat where
  inputs := [("pixels", imageInputShape)]
  outputs := [("scores", [1])]
  run count _ := (.ok (NameMap.empty.insert "scores" (Tensor.zeros .f32 [1])), count + 1)

/-- A preprocessor that sees nothing in an image. -/
def blindness : Preprocessor := .image fun _ => .ok (Tensor.zeros .u8 imageInputShape)

/-- A labelled image, and a row that is no image. -/
def imageAndRow : List Item :=
  [.sample (.ofMembers "n01" [("jpeg", .empty), ("cls", "0".toUTF8)]), .row .null]

/-- The image is evaluated and found to be correct, and the row is skipped. -/
theorem evaluate_counts_image_and_row :
    ∃ run tally opened, ∃ bindings : List InputBinding, ∃ recorded,
      (evaluate ⟨.imageNet, "images.tar"⟩ (.fixed imageAndRow) () singleScore 0 blindness
        ⟨none, true⟩).run? = some run ∧
      run.value.outcome = .ok tally ∧
      tally = ⟨"imagenet-2012-val", 2, 1, 1, 1, 1⟩ ∧
      (tally.seen : ℕ∞) =
        min ⊤ ((Source.fixed imageAndRow).resultCount .imageNet opened) ∧
      bindings.length = 1 ∧
      (evaluate ⟨.imageNet, "images.tar"⟩ (.fixed imageAndRow) () singleScore.recording (0, [])
        blindness ⟨none, true⟩).run? = some recorded ∧
      recorded.value.engine = (run.value.engine, bindings.reverse) := by
  have brings : (Source.fixed imageAndRow).Brings (imageAndRow.map .ok) (imageAndRow.map .ok) [] :=
    .item rfl (.item rfl (.nothing _))
  obtain ⟨run, progress, comes, isProgress, outcome, -⟩ :
      ∃ run progress, (evaluate ⟨.imageNet, "images.tar"⟩ (.fixed imageAndRow) () singleScore 0
        blindness ⟨none, true⟩).run? = some run ∧ _ := evaluate_of_ends rfl brings rfl
  have succeeded : run.value.outcome = .ok ⟨"imagenet-2012-val", 2, 1, 1, 1, 1⟩ := by
    rw [outcome, isProgress]
    decide +kernel
  obtain ⟨opened, results, bindings, outputs, recorded, -, -, -, number, -, -, -, -, -, length, -,
    isRecorded, -, kept, -⟩ := evaluate_counts_what_happened comes succeeded
  exact ⟨run, _, opened, bindings, recorded, comes, succeeded, rfl, number, length, isRecorded,
    kept⟩

end Holdout
