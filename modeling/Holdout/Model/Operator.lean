import Holdout.Failure
import Holdout.Model.Interface

/-!
# Operators

The operators that models are made of, and what is known of a result before the model runs.
An operator that does not take its arguments is a failure of the model; one that names a
direction that its argument does not have breaks down.
-/

namespace Holdout

/-- The operators. -/
inductive Operator
  | identity
  | relu
  | add
  | matMul
  | globalAveragePool
  /-- All directions before an axis become one, and so do all others. -/
  | flatten (axis : Int)
  deriving DecidableEq, Repr

/-- The value, or a failure of the model. -/
def orUnsound (value? : Option α) : Except Failure α :=
  match value? with
  | some value => .ok value
  | none => .error (.within .engine)

namespace Operator

/-- Sizes of two tensors aligned at their last directions, where a missing size is a one. -/
def alignSizes (one : α) (first second : List α) : List (α × α) :=
  let rank := max first.length second.length
  let widened (sizes : List α) : List α := List.replicate (rank - sizes.length) one ++ sizes
  (widened first).zip (widened second)

/-- The sizes of two tensors repeated along each other. -/
def joinDims? (first second : List Dim) : Option (List Dim) :=
  (alignSizes (.fixed 1) first second).mapM fun (first, second) => first.joined? second

/-- The axis counted from the front. -/
def frontAxis? (axis : Int) (rank : Nat) : Option Nat :=
  let place := if axis < 0 then axis + rank else axis
  if 0 ≤ place ∧ place ≤ rank then some place.toNat else none

/-- The sizes of the factors of a matrix product. A single direction is a row on the left and a
column on the right; the flags say so. -/
structure Factors (α : Type) where
  first : List α
  second : List α
  isRow : Bool
  isColumn : Bool

/-- The factors with two directions or more, if they have at least one. -/
def factors? (one : α) : List α → List α → Option (Factors α)
  | [], _ | _, [] => none
  | [inner], [inner'] => some ⟨[one, inner], [inner', one], true, true⟩
  | [inner], second => some ⟨[one, inner], second, true, false⟩
  | first, [inner] => some ⟨first, [inner, one], false, true⟩
  | first, second => some ⟨first, second, false, false⟩

/-- The sizes of a product, without the directions that were only lent to its factors. -/
def Factors.sizes (factors : Factors α) (batch : List α) (rows columns : α) : List α :=
  batch ++ (if factors.isRow then [] else [rows]) ++ (if factors.isColumn then [] else [columns])

/-- The sizes of a matrix product, by the sizes of its factors. -/
def productDims? (first second : List Dim) : Option (List Dim) := do
  let factors ← factors? (.fixed 1) first second
  match factors.first.reverse, factors.second.reverse with
  | inner :: rows :: firstBatch, columns :: inner' :: secondBatch => do
    let _ ← match inner, inner' with
      | .fixed size, .fixed size' => if size = size' then some () else none
      | _, _ => some ()
    let batch ← joinDims? firstBatch.reverse secondBatch.reverse
    return factors.sizes batch rows columns
  | _, _ => none

/-- The sizes of the result, by the sizes of the arguments. Of directions that are made one, at most
one may have a size that is no number. -/
def dims (operator : Operator) (arguments : List (List Dim)) : Except Failure (List Dim) :=
  match operator, arguments with
  | .identity, [dims] | .relu, [dims] => .ok dims
  | .add, [first, second] => orUnsound (joinDims? first second)
  | .matMul, [first, second] => orUnsound (productDims? first second)
  | .globalAveragePool, [batch :: channels :: rest] =>
    .ok (batch :: channels :: rest.map fun _ => .fixed 1)
  | .flatten axis, [dims] =>
    if 1 < (dims.filter fun dim => dim.size?.isNone).length then .error (.within .engine)
    else
      match frontAxis? axis dims.length with
      | none => .error .breakdown
      | some axis => .ok [Dim.product (dims.take axis), Dim.product (dims.drop axis)]
  | _, _ => .error (.within .engine)

/-- Operators that compute take single precision numbers. -/
def takes (operator : Operator) (type : ValueType) : Bool :=
  match operator with
  | .identity | .flatten _ => true
  | _ => type = .numbers .f32

/-- The operator takes directions together. -/
def regroups : Operator → Bool
  | .flatten _ => true
  | _ => false

/-- What is known of the result, by what is known of the arguments. Directions are not
taken together when no element is left. -/
def infer (operator : Operator) (arguments : List TensorFact) : Except Failure TensorFact := do
  let dims ← operator.dims (arguments.map TensorFact.dims)
  let type ← orUnsound (arguments.head?.map TensorFact.type)
  if arguments.any fun argument => argument.type ≠ type then throw (.within .engine)
  if !operator.takes type then throw (.within .engine)
  if operator.regroups ∧ dims.contains (.fixed 0) then throw (.within .engine)
  return ⟨type, dims⟩

end Operator

end Holdout
