import Holdout.Model.Message

/-!
# The layout of ONNX messages

Which fields each message of a model has, and how their values are written. A model is laid
out well if every field that is known holds a value of its form, in all messages inside each
other; fields that are not known are passed over. What a model is made of is looked at only
after all of it is laid out well.
-/

namespace Holdout
namespace Onnx

open Message

/-- The messages that a model is made of. -/
inductive Part
  | model
  | operatorSet
  | entry
  | training
  | function
  | graph
  | node
  | setting
  | value
  | type
  | tensorType
  | sequenceType
  | mapType
  | optionalType
  | shape
  | dim
  | tensor
  | segment
  | sparseTensor
  | quantization
  deriving DecidableEq, Repr

/-- How the values of a field are written. -/
inductive Content
  | number
  /-- Numbers one by one or packed. -/
  | numbers
  | single
  /-- Single precision numbers one by one or packed. -/
  | singles
  /-- Double precision numbers one by one or packed. -/
  | doubles
  | text
  | run
  | message (part : Part)
  deriving DecidableEq, Repr

/-- The content of a field by its tag. -/
def Part.content? : Part → Nat → Option Content
  | .model, tag => match tag with
    | 1 | 5 => some .number
    | 2 | 3 | 4 | 6 => some .text
    | 7 => some (.message .graph)
    | 8 => some (.message .operatorSet)
    | 14 => some (.message .entry)
    | 20 => some (.message .training)
    | 25 => some (.message .function)
    | _ => none
  | .operatorSet, tag => match tag with
    | 1 => some .text
    | 2 => some .number
    | _ => none
  | .entry, tag => match tag with
    | 1 | 2 => some .text
    | _ => none
  | .training, tag => match tag with
    | 1 | 2 => some (.message .graph)
    | 3 | 4 => some (.message .entry)
    | _ => none
  | .function, tag => match tag with
    | 1 | 4 | 5 | 6 | 8 | 10 => some .text
    | 7 => some (.message .node)
    | 9 => some (.message .operatorSet)
    | 11 => some (.message .setting)
    | _ => none
  | .graph, tag => match tag with
    | 1 => some (.message .node)
    | 2 | 10 => some .text
    | 5 => some (.message .tensor)
    | 11 | 12 | 13 => some (.message .value)
    | 14 => some (.message .quantization)
    | 15 => some (.message .sparseTensor)
    | _ => none
  | .node, tag => match tag with
    | 1 | 2 | 3 | 4 | 6 | 7 => some .text
    | 5 => some (.message .setting)
    | _ => none
  | .setting, tag => match tag with
    | 1 | 13 | 21 => some .text
    | 2 => some .single
    | 3 | 20 => some .number
    | 4 | 9 => some .run
    | 5 | 10 => some (.message .tensor)
    | 6 | 11 => some (.message .graph)
    | 7 => some .singles
    | 8 => some .numbers
    | 14 | 15 => some (.message .type)
    | 22 | 23 => some (.message .sparseTensor)
    | _ => none
  | .value, tag => match tag with
    | 1 | 3 => some .text
    | 2 => some (.message .type)
    | _ => none
  | .type, tag => match tag with
    | 1 | 8 => some (.message .tensorType)
    | 4 => some (.message .sequenceType)
    | 5 => some (.message .mapType)
    | 6 => some .text
    | 9 => some (.message .optionalType)
    | _ => none
  | .tensorType, tag => match tag with
    | 1 => some .number
    | 2 => some (.message .shape)
    | _ => none
  | .sequenceType, tag | .optionalType, tag => match tag with
    | 1 => some (.message .type)
    | _ => none
  | .mapType, tag => match tag with
    | 1 => some .number
    | 2 => some (.message .type)
    | _ => none
  | .shape, tag => match tag with
    | 1 => some (.message .dim)
    | _ => none
  | .dim, tag => match tag with
    | 1 => some .number
    | 2 | 3 => some .text
    | _ => none
  | .tensor, tag => match tag with
    | 1 | 5 | 7 | 11 => some .numbers
    | 2 | 14 => some .number
    | 3 => some (.message .segment)
    | 4 => some .singles
    | 6 | 9 => some .run
    | 8 | 12 => some .text
    | 10 => some .doubles
    | 13 => some (.message .entry)
    | _ => none
  | .segment, tag => match tag with
    | 1 | 2 => some .number
    | _ => none
  | .sparseTensor, tag => match tag with
    | 1 | 2 => some (.message .tensor)
    | 3 => some .numbers
    | _ => none
  | .quantization, tag => match tag with
    | 1 => some .text
    | 2 => some (.message .entry)
    | _ => none

/-- A value is written as its content says; `inside` tells it of messages. -/
def Content.fits (inside : Part → List UInt8 → Bool) : Content → Value → Bool
  | .number, .number _ => true
  | .numbers, .number _ => true
  | .numbers, .bytes bytes => (packedWords? bytes.length bytes).isSome
  | .single, .fixed32 _ => true
  | .singles, .fixed32 _ => true
  | .singles, .bytes bytes => bytes.length % 4 = 0
  | .doubles, .fixed64 _ => true
  | .doubles, .bytes bytes => bytes.length % 8 = 0
  | .text, .bytes bytes => (String.fromUTF8? ⟨bytes.toArray⟩).isSome
  | .run, .bytes _ => true
  | .message part, .bytes bytes => inside part bytes
  | _, _ => false

/-- The fields of a message are laid out well. Where no message may stand inside, no field may stand
that is not known. -/
def Part.fits (inside : Part → List UInt8 → Bool) (depth : Nat) (part : Part)
    (bytes : List UInt8) : Bool :=
  match readWithin? depth bytes with
  | none => false
  | some fields => fields.all fun field =>
    match part.content? field.tag with
    | some content => content.fits inside field.value
    | none => 0 < depth

/-- A message with messages at most so deep inside is laid out well. -/
def Part.isSound : Nat → Part → List UInt8 → Bool
  | 0 => Part.fits (fun _ _ => false) 0
  | depth + 1 => Part.fits (Part.isSound depth) (depth + 1)

/-- A model is laid out well. -/
def isSound (bytes : List UInt8) : Bool := Part.model.isSound depthLimit bytes

end Onnx
end Holdout
