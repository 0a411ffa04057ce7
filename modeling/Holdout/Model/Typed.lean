import Holdout.Model.Interface

/-!
# Typed models

A model of which all is known that can be known before it runs. How it is made up inside does not
matter from then on.
-/

namespace Holdout

/-- A model that has been typed: what is known of its inputs and outputs, and how it runs. -/
structure TypedModel where
  inputs : List ModelInput
  outputs : List (String × TensorFact)
  /-- The results for tensors in the order of the inputs, or none if the run fails. -/
  run? : List Tensor → Option (List Tensor)
  /-- A run makes a tensor for each output. -/
  length_of_run? : ∀ {tensors results : List Tensor},
    run? tensors = some results → results.length = outputs.length

end Holdout
