import Holdout.Duration
import Holdout.Evaluation

/-!
# Reports

The counts of a pass together with the time it took, and what is worked out from them.
-/

namespace Holdout

/-- The result of a pass. -/
structure Report where
  tally : Tally
  elapsed : Duration
  deriving DecidableEq, Repr

namespace Tally

/-- The share of labelled records whose best score was that of their class. -/
def accuracy? (tally : Tally) : Option Float :=
  if tally.labelled = 0 then none
  else some (Float.ofNat tally.correct / Float.ofNat tally.labelled)

end Tally

namespace Report

/-- The mean time of an evaluated record. -/
def perRecord? (report : Report) : Except DurationError (Option Duration) :=
  if report.tally.evaluated = 0 then .ok none
  else
    (Duration.ofFloat (report.elapsed.toSeconds / Float.ofNat report.tally.evaluated)).map some

end Report

end Holdout
