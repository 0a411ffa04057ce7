import Holdout.Failure
import Holdout.NameMap
import Holdout.Tensor

/-!
# Bindings

A binding gives each input of a model its tensor. It is where datasets and engines
meet, so it is checked for exactly the expected names and for the expected shape.
-/

namespace Holdout

/-- Tensors by the names of a model's inputs. -/
abbrev InputBinding := NameMap Tensor

/-- Tensors by the names of a model's outputs. -/
abbrev Outputs := NameMap Tensor

/-- The shape of an image for classification: one image, three colours, 224 rows and columns. -/
def imageInputShape : List Nat := [1, 3, 224, 224]

/-- Names in increasing order, with repetitions kept. -/
def sortedNames (names : List String) : List String :=
  names.mergeSort fun first second => decide (first ≤ second)

/-- The binding has the expected names and no others, in whatever order they are expected. -/
def checkNames (expected : List String) (binding : InputBinding) : Except DatasetError Unit :=
  if sortedNames expected = binding.names then .ok ()
  else .error (.contractMismatch (.names (sortedNames expected) binding.names))

/-- The tensor has the expected shape. -/
def checkShape (name : String) (tensor : Tensor) (expected : List Nat) :
    Except DatasetError Unit :=
  if tensor.shape = expected then .ok ()
  else .error (.contractMismatch (.shape name tensor.shape expected))

end Holdout
