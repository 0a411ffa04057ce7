import Holdout.Command.Grammar
import Holdout.Command.Outcome
import Holdout.Image.Decode
import Holdout.Loader.Basic
import Holdout.Model.Onnx
import Holdout.Report
import Holdout.Text.Double

/-!
# Evaluating a classifier

One pass of an image set through a model, and the summary of the pass as lines of text or as
a JSON object.
-/

namespace Holdout
namespace Command

/-- A span of time in milliseconds. -/
def milliseconds (span : Duration) : Float := span.toSeconds * 1000.0

/-- The mean time of a record in milliseconds. -/
def recordMilliseconds? (report : Report) : Option Float :=
  (report.perRecord?.toOption.bind id).map milliseconds

/-- The summary of a pass as text. -/
def textSummary (report : Report) : List String :=
  let tally := report.tally
  let first := tally.dataset ++ s!": {tally.evaluated} records evaluated, {tally.skipped} skipped, " ++
    Text.twoPlaces (milliseconds report.elapsed) ++ " ms total"
  let perRecord := (recordMilliseconds? report).toList.map fun time =>
    Text.twoPlaces time ++ " ms per record"
  let accuracy := match tally.accuracy? with
    | some share => "top-1 accuracy: " ++ Text.twoPlaces (share * 100.0) ++
        s!"% ({tally.correct}/{tally.labelled})"
    | none => "no labelled records"
  first :: perRecord ++ [accuracy]

/-- A number that may be absent. -/
def jsonNumber : Option Float → String
  | some value => Text.shortestText value
  | none => "null"

/-- The lines of an object with these fields, whose values are written already. -/
def objectLines (fields : List (String × String)) : List String :=
  let lines := fields.map fun (name, value) => "  \"" ++ name ++ "\": " ++ value
  let separated := lines.dropLast.map (· ++ ",") ++ lines.getLast?.toList
  ["\x7b"] ++ separated ++ ["\x7d"]

/-- The summary of a pass as an object. -/
def jsonSummary (report : Report) : List String :=
  let tally := report.tally
  objectLines [
    ("dataset", "\"" ++ tally.dataset ++ "\""),
    ("seen", toString tally.seen),
    ("evaluated", toString tally.evaluated),
    ("skipped", toString tally.skipped),
    ("labelled", toString tally.labelled),
    ("correct", toString tally.correct),
    ("accuracy", jsonNumber tally.accuracy?),
    ("total_ms", jsonNumber (some (milliseconds report.elapsed))),
    ("per_record_ms", jsonNumber (recordMilliseconds? report))]

/-- The summary of a pass. -/
def summary (layout : OutputLayout) (report : Report) : List String :=
  match layout with
  | .text => textSummary report
  | .json => jsonSummary report

/-- Put a set of images through a model. -/
def evaluateModel (disk : Disk) (path : String) (set : ValidationSet) (options : EvalOptions)
    (loader : Loader) : Course (Except EvalError Tally) :=
  match set.kind with
  | .imageNet => do
    match ← Onnx.loadPath disk path.toUTF8.toList with
    | .error cause => return .error (.failure cause)
    | .ok model =>
      let evaluation ←
        Holdout.evaluate set loader.source () model.engine () classifierPreprocessor options
      return evaluation.outcome
  | _ => pure (.error (.failure (.needsTokenizer set.name)))

end Command
end Holdout
