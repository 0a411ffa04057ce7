import Holdout.Binding
import Holdout.Model.Formula
import Holdout.Word

/-!
# What a model takes and gives

Inputs and outputs of a model under cleaned names, with the sizes that are known. The
leading size of an input is that of a batch: unless a model fixes it, it is pinned to one.
-/

namespace Holdout

/-- The size of one direction of a tensor. -/
inductive Dim
  | fixed (size : Int)
  /-- A size that stands for the same number wherever it is named. -/
  | symbol (name : String)
  /-- A size by a formula that is more than a number or a symbol. -/
  | computed (formula : Formula)
  | unknown
  deriving DecidableEq, Repr

namespace Dim

/-- The size as a 64 bit word, if it is known. -/
def size? : Dim → Option Nat
  | .fixed size => some (size % Word.limit).toNat
  | _ => none

/-- The size that a formula gives. -/
def ofFormula : Formula → Dim
  | .number size => .fixed size
  | .symbol name => .symbol name
  | formula => .computed formula

/-- The formula for the size. -/
def formula? : Dim → Option Formula
  | .fixed size => some (.number size)
  | .symbol name => some (.symbol name)
  | .computed formula => some formula
  | .unknown => none

/-- The number of elements of two directions taken together. -/
def times (first second : Dim) : Dim :=
  match first.formula?, second.formula? with
  | some first, some second => ofFormula (first.times second)
  | _, _ => .unknown

/-- The number of elements of directions taken together. -/
def product (dims : List Dim) : Dim := dims.foldl times (.fixed 1)

/-- The size of two directions of which the one of size one is repeated along the other. -/
def joined? (first second : Dim) : Option Dim :=
  match first.formula?, second.formula? with
  | some first, some second => (first.join? second).map ofFormula
  | _, _ => some .unknown

end Dim

/-- The kinds of values that a model can name. -/
inductive ValueType
  | numbers (type : ElementType)
  /-- A kind of which no tensor is at hand, by its code in the model. -/
  | foreign (code : Int)
  deriving DecidableEq, Repr

/-- The kind of a value and its sizes, as far as they are known. -/
structure TensorFact where
  type : ValueType
  dims : List Dim
  deriving DecidableEq, Repr

namespace TensorFact

/-- What is known of a tensor at hand. -/
def ofTensor (tensor : Tensor) : TensorFact :=
  ⟨.numbers tensor.type, tensor.shape.map fun (size : Nat) => .fixed size⟩

/-- Some size is below zero, which none can be. -/
def isAbsurd (fact : TensorFact) : Bool :=
  fact.dims.any fun
    | .fixed size => size < 0
    | _ => false

/-- The sizes that are known. -/
def shape (fact : TensorFact) : List Nat := fact.dims.filterMap Dim.size?

end TensorFact

/-- An input of a model. -/
structure ModelInput where
  name : String
  fact : TensorFact
  deriving DecidableEq, Repr

/-- Sizes with the leading one pinned to one unless it is fixed. -/
def pinLeading : List Dim → List Dim
  | [] => []
  | .fixed size :: rest => .fixed size :: rest
  | _ :: rest => .fixed 1 :: rest

/-- Characters without the ending `_0`. -/
def dropOutputNumber (name : List Char) : List Char :=
  match name.reverse with
  | '0' :: '_' :: rest => rest.reverse
  | _ => name

/-- A name up to its first colon, without the number of a first output. -/
def cleanName (name : String) : String :=
  String.ofList (dropOutputNumber (name.toList.takeWhile (· ≠ ':')))

end Holdout
