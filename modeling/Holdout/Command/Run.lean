import Holdout.Command.Arguments
import Holdout.Command.Classify
import Holdout.Command.Describe
import Holdout.Command.Evaluate
import Holdout.Command.Stream

/-!
# Running commands

A command runs on a disk alone. What it prints may tell the time it took, which is known
only when it has run.
-/

namespace Holdout
namespace Command

/-- What a command has come to before the time it took is known. -/
inductive Result
  | finished (outcome : Outcome)
  | evaluated (layout : OutputLayout) (tally : Tally)
  deriving DecidableEq, Repr

namespace Result

/-- What the command has come to after so much time. -/
def outcome (elapsed : Duration) : Result → Outcome
  | .finished outcome => outcome
  | .evaluated layout tally => .lines (summary layout ⟨tally, elapsed⟩)

/-- The path for want of which the command has failed, if there is one. -/
def unreadPath? : Result → Option (List UInt8)
  | .finished outcome => outcome.error.bind EvalError.unreadPath?
  | .evaluated _ _ => none

end Result

/-- Run a command. Of several images to classify, `choose` names one. -/
def run (disk : Disk) (choose : List String → Option String) : Command → Course Result
  | .describe model => do return .finished (← describeModel disk model)
  | .stream set count source => do
    return .finished (← streamRecords set (source.loader disk).source () count)
  | .evaluate model set options layout source => do
    match ← evaluateModel disk model set options (source.loader disk) with
    | .error error => return .finished (.failed error)
    | .ok tally => return .evaluated layout tally
  | .classify model labels images => do
    return .finished (← classifyImage disk model labels (choose images))

end Command
end Holdout
