import Holdout.Engine
import Holdout.RecordStream
import Holdout.Scores

/-!
# Evaluation

One pass of a set through an engine. The pass ends with the stream, at the limit, or
at the first failure; a malformed record is a failure unless such records are to be
skipped, and then it still counts as seen.
-/

namespace Holdout

/-- The counts of a pass. -/
structure Tally where
  dataset : String
  /-- Record results taken from the stream, with the skipped ones. -/
  seen : Nat
  /-- Records that went through the engine. -/
  evaluated : Nat
  skipped : Nat
  /-- Records whose class was told and whose scores were compared with it. -/
  labelled : Nat
  /-- Labelled records whose best score was that of their class. -/
  correct : Nat
  deriving DecidableEq, Repr

namespace Tally

/-- Nothing counted yet. -/
def start (dataset : String) : Tally := ⟨dataset, 0, 0, 0, 0, 0⟩

/-- One more malformed record. -/
def skip (tally : Tally) : Tally :=
  { tally with seen := tally.seen + 1, skipped := tally.skipped + 1 }

/-- One more record evaluated, with its verdict if its class was told. -/
def add (tally : Tally) (verdict : Option Bool) : Tally :=
  { tally with
    seen := tally.seen + 1
    evaluated := tally.evaluated + 1
    labelled := tally.labelled + (if verdict.isSome then 1 else 0)
    correct := tally.correct + (if verdict = some true then 1 else 0) }

end Tally

/-- How a pass is to be made. -/
structure EvalOptions where
  /-- Take at most this many record results. -/
  limit : Option Nat
  /-- Go past malformed records. -/
  skipMalformed : Bool
  deriving DecidableEq, Repr

/-- Why a pass failed. -/
inductive EvalError
  | dataset (error : DatasetError)
  | failure (cause : Failure)
  deriving DecidableEq, Repr

/-- A pass under way. -/
structure Progress (ε : Type) where
  engine : ε
  tally : Tally
  error : Option EvalError

/-- What a pass is made with. -/
structure Trial (ε : Type) where
  kind : SetKind
  engine : Engine ε
  preprocessor : Preprocessor
  options : EvalOptions

namespace Trial

/-- Whether the best of a run's scores is that of the record's class; none if the record tells no
class, or if the model has not exactly one output. -/
def verdict (trial : Trial ε) (record : Record) (outputs : Outputs) :
    Except Failure (Option Bool) :=
  match record.label?, decide (trial.engine.outputs.length = 1), outputs.values with
  | some label, true, scores :: _ => do
    let best ← argmax scores
    return some (decide ((best : Int) = label))
  | _, _, _ => .ok none

/-- Put one record through the engine. -/
def judge (trial : Trial ε) (state : ε) (record : Record) :
    Except EvalError (Option Bool) × ε :=
  match trial.kind.transform trial.engine.inputNames record trial.preprocessor with
  | .error error => (.error (.dataset error), state)
  | .ok binding =>
    match trial.engine.run state binding with
    | (.error cause, state) => (.error (.failure cause), state)
    | (.ok outputs, state) =>
      match trial.verdict record outputs with
      | .error cause => (.error (.failure cause), state)
      | .ok verdict => (.ok verdict, state)

/-- The pass goes on: nothing has failed and the limit is not reached. -/
def wants (trial : Trial ε) (progress : Progress ε) : Bool :=
  progress.error.isNone &&
    match trial.options.limit with
    | none => true
    | some limit => progress.tally.seen < limit

/-- The pass after one more record result. -/
def take (trial : Trial ε) (progress : Progress ε) : RecordResult → Logged (Progress ε)
  | .error (.malformedRecord dataset flaw) =>
    if trial.options.skipMalformed then do
      Logged.note (.recordSkipped dataset flaw)
      return { progress with tally := progress.tally.skip }
    else return { progress with error := some (.dataset (.malformedRecord dataset flaw)) }
  | .error error => return { progress with error := some (.dataset error) }
  | .ok record =>
    match trial.judge progress.engine record with
    | (.error error, state) => return { progress with engine := state, error := some error }
    | (.ok verdict, state) => do
      let tally := progress.tally.add verdict
      Logged.note (.evaluated tally.dataset tally.evaluated)
      return { progress with engine := state, tally := tally }

end Trial

/-- The counts of a pass that has not failed. -/
def Progress.outcome (progress : Progress ε) : Except EvalError Tally :=
  match progress.error with
  | some error => .error error
  | none => .ok progress.tally

/-- What an evaluation has come to. -/
structure Evaluation (ε σ : Type) where
  outcome : Except EvalError Tally
  engine : ε
  /-- The stream as the pass left it, if the set could be opened. -/
  stream : Option (RecordStream σ)

/-- Open the set and put its records through the engine. -/
def evaluate (set : ValidationSet) (source : Source τ σ) (memory : τ) (engine : Engine ε)
    (state : ε) (preprocessor : Preprocessor) (options : EvalOptions) :
    Course (Evaluation ε σ) := do
  let trial : Trial ε := ⟨set.kind, engine, preprocessor, options⟩
  let (opened, _) ← set.openWith source memory
  match opened with
  | .error error => return ⟨.error (.dataset error), state, none⟩
  | .ok stream =>
    let (progress, stream) ←
      stream.feed source trial.wants trial.take ⟨state, Tally.start set.name, none⟩
    return ⟨progress.outcome, progress.engine, some stream⟩

end Holdout
