import Holdout.Model.Draft
import Holdout.Model.Message

/-!
# Constants in ONNX

The kinds of elements by their codes, and tensors with the bytes of their elements as they
are or with their elements one by one. A code or a number of bytes that cannot be breaks
down; so do elements one by one of a kind that is never written so.
-/

namespace Holdout
namespace Onnx

open Message

/-- The kind of elements that a code stands for. Those without a meaning, complex numbers and short
floating point numbers are no kinds that a model can have. -/
def elementType (code : Int) : Except Failure ValueType :=
  match code with
  | 1 => .ok (.numbers .f32)
  | 2 => .ok (.numbers .u8)
  | 3 => .ok (.numbers .i8)
  | 6 => .ok (.numbers .i32)
  | 7 => .ok (.numbers .i64)
  | 9 => .ok (.numbers .bool)
  | 11 => .ok (.numbers .f64)
  | 13 => .ok (.numbers .u64)
  | 4 | 5 | 8 | 10 | 12 => .ok (.foreign code)
  | 0 | 14 | 15 | 16 => .error (.within .engine)
  | _ => .error .breakdown

/-- The bytes of one element; texts have no fixed number. -/
def elementSize? : ValueType → Option Nat
  | .numbers .f32 | .numbers .i32 | .foreign 12 => some 4
  | .numbers .f64 | .numbers .i64 | .numbers .u64 => some 8
  | .numbers .i8 | .numbers .u8 | .numbers .bool => some 1
  | .foreign 4 | .foreign 5 | .foreign 10 => some 2
  | .foreign _ => none

/-- The words of a run of bytes, each in so many bytes, the lowest first. -/
def wordsOf (size count : Nat) (bytes : List UInt8) : List Nat :=
  let bytes := bytes.toArray
  (List.range count).map fun place =>
    (List.range size).foldr
      (fun step word => word * 256 + (bytes.getD (size * place + step) 0).toNat) 0

/-- The elements whose bits are words. -/
def elementsOf (words : List Nat) : ElementType → Elements
  | .f32 => .f32 (words.map fun word => Float32.ofBits (UInt32.ofNat word)).toArray
  | .f64 => .f64 (words.map fun word => Float.ofBits (UInt64.ofNat word)).toArray
  | .i64 => .i64 (words.map fun word => (UInt64.ofNat word).toInt64).toArray
  | .i32 => .i32 (words.map fun word => (UInt32.ofNat word).toInt32).toArray
  | .i8 => .i8 (words.map fun word => (UInt8.ofNat word).toInt8).toArray
  | .u8 => .u8 (words.map UInt8.ofNat).toArray
  | .u64 => .u64 (words.map UInt64.ofNat).toArray
  | .bool => .bool (words.map fun word => decide (word % Word.halfLimit ≠ 0)).toArray

/-- The words of elements one by one. -/
def listedWords (type : ValueType) (fields : List Field) : Except Failure (List Nat) :=
  let numbers (tag : Nat) : Except Failure (List Nat) := do
    let values ← orUnsound (numbers? tag fields)
    return values.map fun (value : Int) => (value % Word.limit).toNat
  let groups (tag size : Nat) : Except Failure (List Nat) := do
    let bytes ← orUnsound (groups? tag fields)
    return wordsOf size (bytes.length / size) bytes
  match type with
  | .numbers .f32 => groups 4 4
  | .numbers .f64 => groups 10 8
  | .numbers .i64 => numbers 7
  | .numbers .u64 | .foreign 12 => .error .breakdown
  | .foreign 8 => (orUnsound (runs? 6 fields)).map fun texts => texts.map fun _ => 0
  | _ => numbers 5

/-- The words of the elements of a tensor of so many; none stands for a count that cannot be. -/
def elementWords (type : ValueType) (count? : Option Nat) (fields : List Field) :
    Except Failure (List Nat) := do
  let raw := (← orUnsound (runs? 9 fields)).getLastD []
  if raw = [] then
    if (← orUnsound (code? 14 fields)) = 1 then throw (.within .engine)
    let words ← listedWords type fields
    if count? = some words.length then return words else throw (.within .engine)
  else
    match elementSize? type, count? with
    | some size, some count =>
      if raw.length = size * count then return wordsOf size count raw else throw .breakdown
    | _, _ => throw .breakdown

/-- Read a constant; its place is not known yet. -/
def readConstant (fields : List Field) : Except Failure DraftConstant := do
  let name ← orUnsound (text? 8 fields)
  let type ← elementType (← orUnsound (code? 2 fields))
  let sizes ← orUnsound (numbers? 1 fields)
  let shape := sizes.map Int.toNat
  let count? := if sizes.all (0 ≤ ·) then some (volume shape) else none
  let words ← elementWords type count? fields
  let fact : TensorFact := ⟨type, sizes.map Dim.fixed⟩
  match type with
  | .numbers type =>
    let tensor ← orUnsound (Tensor.ofElements? shape (elementsOf words type))
    return ⟨name, 0, fact, some tensor⟩
  | .foreign _ => return ⟨name, 0, fact, none⟩

end Onnx
end Holdout
