import Holdout.Evaluation
import Holdout.Text.Padding

/-!
# What commands come to

The lines that a command prints, and the error with which it may end. An error is told by
its own words first and then by its causes, which are numbered if there are several.
-/

namespace Holdout

/-- The path that could not be opened or read, if that is why something failed. -/
def Failure.unreadPath? : Failure → Option (List UInt8)
  | .during (.openingPath path) (.within .io) => some path
  | .during (.readingLabels path) (.within .io) => some path
  | .during (.readingFile path) (.within .io) => some path
  | .during _ cause => cause.unreadPath?
  | _ => none

namespace EvalError

/-- The path for want of which an evaluation has failed, if there is one. -/
def unreadPath? : EvalError → Option (List UInt8)
  | .dataset error => error.cause?.bind Failure.unreadPath?
  | .failure cause => cause.unreadPath?

/-- The error is a breakdown at heart. -/
def isBreakdown : EvalError → Bool
  | .dataset error => error.cause?.any Failure.isBreakdown
  | .failure cause => cause.isBreakdown

/-- The words of an error and of its causes, outermost first. -/
def chain : EvalError → List String
  | .dataset error => error.message :: (error.cause?.map Failure.chain).getD []
  | .failure cause => cause.chain

end EvalError

namespace Command

/-- The lines that tell the causes of an error. -/
def causeLines : List String → List String
  | [] => []
  | [cause] => ["", "Caused by:", "    " ++ cause]
  | causes => "" :: "Caused by:" ::
      causes.zipIdx.map fun (cause, index) => Text.pad .right 5 (toString index) ++ ": " ++ cause

/-- The lines that tell an error. -/
def errorLines (error : EvalError) : List String :=
  ("Error: " ++ error.chain.headD "") :: causeLines error.chain.tail

/-- What a command has come to. -/
structure Outcome where
  printed : List String
  error : Option EvalError
  deriving DecidableEq, Repr

namespace Outcome

/-- The command has printed lines. -/
def lines (printed : List String) : Outcome := ⟨printed, none⟩

/-- The command has failed without printing anything. -/
def failed (error : EvalError) : Outcome := ⟨[], some error⟩

/-- The outcome with a line before the others. -/
def after (line : String) (outcome : Outcome) : Outcome :=
  { outcome with printed := line :: outcome.printed }

end Outcome

end Command
end Holdout
