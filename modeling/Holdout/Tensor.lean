/-!
# Tensors

Rectangular arrays of numbers of one kind, stored row by row: the last index runs
fastest. A tensor always has as many elements as its shape says.
-/

namespace Holdout

/-- The kinds of numbers that a tensor can hold, all of which can be taken as single precision numbers.
Half precision numbers, other widths of integers and texts are kinds of which there are no tensors here. -/
inductive ElementType
  | f32
  | f64
  | i64
  | i32
  | i8
  | u8
  | u64
  | bool
  deriving DecidableEq, Repr

/-- The elements of a tensor in their order. -/
inductive Elements
  | f32 (values : Array Float32)
  | f64 (values : Array Float)
  | i64 (values : Array Int64)
  | i32 (values : Array Int32)
  | i8 (values : Array Int8)
  | u8 (values : Array UInt8)
  | u64 (values : Array UInt64)
  | bool (values : Array Bool)
  deriving DecidableEq

namespace Elements

/-- The kind of the elements. -/
def type : Elements → ElementType
  | .f32 _ => .f32
  | .f64 _ => .f64
  | .i64 _ => .i64
  | .i32 _ => .i32
  | .i8 _ => .i8
  | .u8 _ => .u8
  | .u64 _ => .u64
  | .bool _ => .bool

/-- The number of elements. -/
def size : Elements → Nat
  | .f32 values => values.size
  | .f64 values => values.size
  | .i64 values => values.size
  | .i32 values => values.size
  | .i8 values => values.size
  | .u8 values => values.size
  | .u64 values => values.size
  | .bool values => values.size

/-- So many zeros. -/
def zeros (count : Nat) : ElementType → Elements
  | .f32 => .f32 (Array.replicate count 0)
  | .f64 => .f64 (Array.replicate count 0)
  | .i64 => .i64 (Array.replicate count 0)
  | .i32 => .i32 (Array.replicate count 0)
  | .i8 => .i8 (Array.replicate count 0)
  | .u8 => .u8 (Array.replicate count 0)
  | .u64 => .u64 (Array.replicate count 0)
  | .bool => .bool (Array.replicate count false)

@[simp] theorem size_zeros (count : Nat) (type : ElementType) :
    (zeros count type).size = count := by
  cases type <;> simp [zeros, size]

@[simp] theorem type_zeros (count : Nat) (type : ElementType) :
    (zeros count type).type = type := by
  cases type <;> rfl

/-- The elements as single precision numbers, each rounded to the nearest one. -/
def singles : Elements → List Float32
  | .f32 values => values.toList
  | .f64 values => values.toList.map Float.toFloat32
  | .i64 values => values.toList.map fun value => Float32.ofInt value.toInt
  | .i32 values => values.toList.map fun value => Float32.ofInt value.toInt
  | .i8 values => values.toList.map fun value => Float32.ofInt value.toInt
  | .u8 values => values.toList.map fun value => Float32.ofNat value.toNat
  | .u64 values => values.toList.map fun value => Float32.ofNat value.toNat
  | .bool values => values.toList.map fun value => if value then 1 else 0

end Elements

/-- The number of elements in a shape. -/
def volume (shape : List Nat) : Nat := shape.foldr (· * ·) 1

/-- A shape with its elements. -/
structure Tensor where
  shape : List Nat
  elements : Elements
  size_elements : elements.size = volume shape
  deriving DecidableEq

namespace Tensor

/-- The tensor of zeros. -/
def zeros (type : ElementType) (shape : List Nat) : Tensor :=
  ⟨shape, Elements.zeros (volume shape) type, Elements.size_zeros _ _⟩

instance : Inhabited Tensor := ⟨zeros .f32 []⟩

/-- The tensor of these elements, if there are as many as the shape needs. -/
def ofElements? (shape : List Nat) (elements : Elements) : Option Tensor :=
  if h : elements.size = volume shape then some ⟨shape, elements, h⟩ else none

/-- The tensor whose element at each place is given by a function of the place. -/
def ofFn (shape : List Nat) (element : Nat → Float32) : Tensor :=
  ⟨shape, .f32 (Array.ofFn fun place : Fin (volume shape) => element place.val),
    by simp [Elements.size]⟩

/-- The kind of the tensor's elements. -/
def type (tensor : Tensor) : ElementType := tensor.elements.type

@[simp] theorem shape_zeros (type : ElementType) (shape : List Nat) :
    (zeros type shape).shape = shape := rfl

@[simp] theorem shape_ofFn (shape : List Nat) (element : Nat → Float32) :
    (ofFn shape element).shape = shape := rfl

/-- The single precision elements, when the tensor holds such numbers. -/
def singles? (tensor : Tensor) : Option (Array Float32) :=
  match tensor.elements with
  | .f32 values => some values
  | _ => none

end Tensor

end Holdout
