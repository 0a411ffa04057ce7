import Holdout.Model.Operator

/-!
# Results of operators

The tensors that operators make. Arithmetic is in single precision and in a fixed order:
products are added one after the other without being rounded before, means come from eight
running sums.
-/

namespace Holdout
namespace Operator

/-- The indices of the element at a place. -/
def indicesAt : List Nat → Nat → List Nat
  | [], _ => []
  | _ :: rest, place => place / volume rest :: indicesAt rest (place % volume rest)

/-- The place of an element by its indices; along a direction of size one there is a single index. -/
def placeAt : List Nat → List Nat → Nat
  | size :: rest, index :: indices =>
    (if size = 1 then 0 else index) * volume rest + placeAt rest indices
  | _, _ => 0

/-- The element of a repeated tensor at indices of the result. -/
def elementAt (shape : List Nat) (values : Array Float32) (indices : List Nat) : Float32 :=
  values.getD (placeAt shape (indices.drop (indices.length - shape.length))) 0

/-- The shape of two tensors repeated along each other. -/
def joinShapes? (first second : List Nat) : Option (List Nat) :=
  (alignSizes 1 first second).mapM fun (first, second) =>
    if first = 1 then some second
    else if second = 1 ∨ first = second then some first
    else none

/-- The sum of two tensors repeated along each other. -/
def sum? (first second : Tensor) : Option Tensor := do
  let left ← first.singles?
  let right ← second.singles?
  let shape ← joinShapes? first.shape second.shape
  return Tensor.ofFn shape fun place =>
    let indices := indicesAt shape place
    elementAt first.shape left indices + elementAt second.shape right indices

/-- A double precision number that keeps on which side of it the exact one lies: where something is
missing, the last bit is set. Rounding it further is rounding the exact one. -/
def sticky (value missing : Float) : Float :=
  if missing == 0 ∨ missing.isNaN ∨ value.toBits % 2 = 1 then value
  else if (0 < value) = (0 < missing) then Float.ofBits (value.toBits + 1)
  else Float.ofBits (value.toBits - 1)

/-- The sum of a number and a product, rounded once. The product is exact in double precision. -/
def addProduct (total first second : Float32) : Float32 :=
  let product := first.toFloat * second.toFloat
  let addend := total.toFloat
  let sum := product + addend
  let back := sum - product
  (sticky sum ((product - (sum - back)) + (addend - back))).toFloat32

/-- The product of two tensors of matrices. -/
def matrixProduct? (first second : Tensor) : Option Tensor := do
  let left ← first.singles?
  let right ← second.singles?
  let factors ← factors? 1 first.shape second.shape
  match factors.first.reverse, factors.second.reverse with
  | inner :: rows :: firstBatch, columns :: inner' :: secondBatch =>
    if inner ≠ inner' then none
    else
      let batch ← joinShapes? firstBatch.reverse secondBatch.reverse
      let shape := batch ++ [rows, columns]
      let product := Tensor.ofFn shape fun place =>
        let indices := indicesAt shape place
        let before := indices.take batch.length
        let row := (indices.drop batch.length).headD 0
        let column := (indices.drop (batch.length + 1)).headD 0
        (List.range inner).foldl (fun total step =>
          addProduct total (elementAt factors.first left (before ++ [row, step]))
            (elementAt factors.second right (before ++ [step, column]))) 0
      Tensor.ofElements? (factors.sizes batch rows columns) product.elements
  | _, _ => none

/-- The sum of so many elements: eight running sums, which are added crosswise, and then the elements
that are left over. -/
def sumOf (count : Nat) (element : Nat → Float32) : Float32 :=
  let running (lane : Nat) : Float32 :=
    (List.range (count / 8)).foldl (fun total round => total + element (8 * round + lane)) 0
  let crossed : Float32 :=
    (List.range 4).foldl (fun total lane => total + (running lane + running (lane + 4))) 0
  (List.range (count % 8)).foldl (fun total rest => total + element (count / 8 * 8 + rest)) crossed

/-- The means over all directions but the first two. -/
def spatialMeans? (tensor : Tensor) : Option Tensor := do
  let values ← tensor.singles?
  match tensor.shape with
  | [_, _] => return tensor
  | batch :: channels :: rest =>
    let size := volume rest
    let share := 1 / Float32.ofNat size
    return Tensor.ofFn (batch :: channels :: rest.map fun _ => 1) fun place =>
      sumOf size (fun step => values.getD (place * size + step) 0) * share
  | _ => none

/-- The tensor of another shape with the same elements in order. -/
def reshaped? (tensor : Tensor) (shape : List Nat) : Option Tensor :=
  Tensor.ofElements? shape tensor.elements

/-- The result of an operator. -/
def result? (operator : Operator) (arguments : List Tensor) : Option Tensor :=
  match operator, arguments with
  | .identity, [tensor] => some tensor
  | .relu, [tensor] => do
    let values ← tensor.singles?
    return Tensor.ofFn tensor.shape fun place =>
      let value := values.getD place 0
      if 0 < value then value else 0
  | .add, [first, second] => sum? first second
  | .matMul, [first, second] => matrixProduct? first second
  | .globalAveragePool, [tensor] => spatialMeans? tensor
  | .flatten axis, [tensor] => do
    let axis ← frontAxis? axis tensor.shape.length
    reshaped? tensor [volume (tensor.shape.take axis), volume (tensor.shape.drop axis)]
  | _, _ => none

end Operator

end Holdout
