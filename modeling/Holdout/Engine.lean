import Holdout.Binding

/-!
# Engines

An engine runs a model on one binding at a time. It may change from run to run.
-/

namespace Holdout

/-- Something that runs a model, standing at an `ε` between runs. -/
structure Engine (ε : Type) where
  /-- Names and shapes of the model's inputs, in the model's order. -/
  inputs : List (String × List Nat)
  /-- Names and shapes of the model's outputs, in the model's order. -/
  outputs : List (String × List Nat)
  run : ε → InputBinding → Except Failure Outputs × ε

namespace Engine

/-- The names of the inputs in increasing order. -/
def inputNames (engine : Engine ε) : List String := sortedNames (engine.inputs.map Prod.fst)

/-- The engine that also keeps the bindings it was given, the last one first. -/
def recording (engine : Engine ε) : Engine (ε × List InputBinding) where
  inputs := engine.inputs
  outputs := engine.outputs
  run := fun (state, given) binding =>
    let (outputs, state) := engine.run state binding
    (outputs, state, binding :: given)

end Engine

end Holdout
