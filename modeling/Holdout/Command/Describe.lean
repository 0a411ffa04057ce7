import Holdout.Command.Outcome
import Holdout.Model.Onnx
import Holdout.Text.Padding

/-!
# Describing a model

What a model takes and gives, one line for each input and output.
-/

namespace Holdout
namespace Command

/-- The line for an input or an output. -/
def interfaceLine (entry : String × List Nat) : String :=
  "\t" ++ Text.pad .left 40 entry.1 ++ ": " ++ Text.numberList entry.2

/-- The lines for a model. -/
def modelLines (model : Model) : List String :=
  "Inputs:" :: model.inputs.map interfaceLine ++
    ["", "Outputs:"] ++ model.outputs.map interfaceLine

/-- Describe the model at a path. -/
def describeModel (disk : Disk) (path : String) : Logged Outcome := do
  match ← Onnx.loadPath disk path.toUTF8.toList with
  | .error cause => return .failed (.failure cause)
  | .ok model => return .lines (modelLines model)

end Command
end Holdout
