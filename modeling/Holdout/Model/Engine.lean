import Holdout.Engine
import Holdout.Journal
import Holdout.Model.Typed

/-!
# Models as engines

A model that has been prepared, with what it takes and gives under cleaned names. A run
takes the tensor of each input out of the binding by its name; nothing may be left over.
-/

namespace Holdout

/-- Take the tensors of names out of a binding, one after the other; with them what is left. -/
def takeInputs : List String → InputBinding → Except Failure (List Tensor × InputBinding)
  | [], binding => .ok ([], binding)
  | name :: rest, binding =>
    match binding.find? name with
    | none => .error (.missingInput name)
    | some tensor => do
      let (tensors, left) ← takeInputs rest (binding.erase name)
      return (tensor :: tensors, left)

/-- The tensors that a binding gives to the names, if it has exactly those. -/
def feedInputs (names : List String) (binding : InputBinding) : Except Failure (List Tensor) := do
  let (tensors, left) ← takeInputs names binding
  if left.isEmpty then return tensors else throw (.surplusInputs left.names)

/-- A model that is ready to run. -/
structure Model where
  /-- Cleaned names and known sizes of the inputs. -/
  inputs : List (String × List Nat)
  /-- Cleaned names and known sizes of the outputs. -/
  outputs : List (String × List Nat)
  /-- The results for tensors in the order of the inputs, or none if the run fails. -/
  plan : List Tensor → Option (List Tensor)

namespace Model

/-- The inputs and outputs of a typed model under cleaned names. -/
def ofTyped (typed : TypedModel) : Model where
  inputs := typed.inputs.map fun input => (cleanName input.name, input.fact.shape)
  outputs := typed.outputs.map fun (name, fact) => (cleanName name, fact.shape)
  plan := typed.run?

/-- Prepare a model that has been typed. -/
def prepare : Except Failure TypedModel → Logged (Except Failure Model)
  | .error failure => pure (.error failure)
  | .ok typed => do
    let model := ofTyped typed
    Logged.note (.modelRead model.inputs model.outputs)
    return .ok model

/-- Run the model on a binding. Of outputs with the same name the last one counts. -/
def run (model : Model) (binding : InputBinding) : Except Failure Outputs := do
  let tensors ← feedInputs (model.inputs.map Prod.fst) binding
  match model.plan tensors with
  | some results => return NameMap.ofList ((model.outputs.map Prod.fst).zip results)
  | none => throw (.within .engine)

/-- The model as an engine, which is the same in every run. -/
def engine (model : Model) : Engine Unit where
  inputs := model.inputs
  outputs := model.outputs
  run _ binding := (model.run binding, ())

end Model

end Holdout
