import Holdout.Text.Decimal
import Holdout.Word

/-!
# Tagged messages

A message is a sequence of fields, each with a number and a value: a number in groups of
seven bits, four or eight bytes, or a run of bytes that may hold text or another message. A
group is a run of fields between two marks with the same number; its fields are not kept.
-/

namespace Holdout
namespace Message

/-- The value of a field. -/
inductive Value
  | number (value : Nat)
  | fixed32 (bytes : List UInt8)
  | fixed64 (bytes : List UInt8)
  | bytes (bytes : List UInt8)
  | group
  deriving DecidableEq, Repr

/-- A field. -/
structure Field where
  tag : Nat
  value : Value
  deriving DecidableEq, Repr

/-- Read a number of at most `groups` groups, the lowest first, and the bytes behind it. -/
def readNumber? : Nat → List UInt8 → Option (Nat × List UInt8)
  | groups + 1, byte :: rest =>
    if byte < 0x80 then some (byte.toNat, rest)
    else (readNumber? groups rest).map fun (high, rest) =>
      (byte.toNat - 0x80 + 0x80 * high, rest)
  | _, _ => none

/-- Read a number of 64 bits. -/
def readWord? (bytes : List UInt8) : Option (Nat × List UInt8) :=
  (readNumber? 10 bytes).filter fun (value, _) => value < Word.limit

/-- Take so many bytes, if there are as many. -/
def takeExactly? (count : Nat) (bytes : List UInt8) : Option (List UInt8 × List UInt8) :=
  if count ≤ bytes.length then some (bytes.take count, bytes.drop count) else none

/-- Messages and groups stand at most this deep in each other. -/
def depthLimit : Nat := 100

/-- How the value of a field is written. -/
inductive Form
  | number
  | fixed64
  | bytes
  | groupStart
  | groupEnd
  | fixed32
  deriving DecidableEq, Repr

/-- The form that a code stands for. -/
def Form.ofCode? : Nat → Option Form
  | 0 => some .number
  | 1 => some .fixed64
  | 2 => some .bytes
  | 3 => some .groupStart
  | 4 => some .groupEnd
  | 5 => some .fixed32
  | _ => none

/-- Read the tag of a field and the form of its value. -/
def readKey? (bytes : List UInt8) : Option (Nat × Form × List UInt8) := do
  let (key, rest) ← readWord? bytes
  let tag := key / 8
  if tag = 0 ∨ Word.halfLimit ≤ key then none
  return (tag, ← Form.ofCode? (key % 8), rest)

/-- Read a value that is no group. -/
def readValue? (form : Form) (bytes : List UInt8) : Option (Value × List UInt8) :=
  match form with
  | .number => (readWord? bytes).map fun (value, rest) => (.number value, rest)
  | .fixed64 => (takeExactly? 8 bytes).map fun (value, rest) => (.fixed64 value, rest)
  | .fixed32 => (takeExactly? 4 bytes).map fun (value, rest) => (.fixed32 value, rest)
  | .bytes => do
    let (size, rest) ← readWord? bytes
    let (value, rest) ← takeExactly? size rest
    return (.bytes value, rest)
  | .groupStart | .groupEnd => none

/-- The bytes behind the groups that are open, the innermost one first. No field stands inside more
than `depth` of them, and there are at most `fuel` marks and fields. -/
def passGroups? (depth : Nat) : Nat → List Nat → List UInt8 → Option (List UInt8)
  | _, [], bytes => some bytes
  | 0, _, _ => none
  | fuel + 1, tag :: outer, bytes => do
    let (other, form, rest) ← readKey? bytes
    if form = .groupEnd then
      if other = tag then passGroups? depth fuel outer rest else none
    else if depth ≤ outer.length + 1 then none
    else if form = .groupStart then passGroups? depth fuel (other :: tag :: outer) rest
    else
      let (_, rest) ← readValue? form rest
      passGroups? depth fuel (tag :: outer) rest

/-- Read one field and the bytes behind it. -/
def readField? (depth : Nat) (bytes : List UInt8) : Option (Field × List UInt8) := do
  let (tag, form, rest) ← readKey? bytes
  if form = .groupStart then
    return (⟨tag, .group⟩, ← passGroups? depth rest.length [tag] rest)
  else
    let (value, rest) ← readValue? form rest
    return (⟨tag, value⟩, rest)

/-- Read at most `fuel` fields. -/
def readFields? (depth : Nat) : Nat → List UInt8 → Option (List Field)
  | _, [] => some []
  | 0, _ => none
  | fuel + 1, bytes => do
    let (field, rest) ← readField? depth bytes
    let fields ← readFields? depth fuel rest
    return field :: fields

/-- Read the fields of a message in which groups may stand so deep in each other. -/
def readWithin? (depth : Nat) (bytes : List UInt8) : Option (List Field) :=
  readFields? depth bytes.length bytes

/-- Read the fields of a message. -/
def read? (bytes : List UInt8) : Option (List Field) := readWithin? depthLimit bytes

/-- The values under a tag. -/
def under (tag : Nat) (fields : List Field) : List Value :=
  (fields.filter fun field => field.tag = tag).map Field.value

/-- The values under a tag that holds runs of bytes. -/
def runs? (tag : Nat) (fields : List Field) : Option (List (List UInt8)) :=
  (under tag fields).mapM fun
    | .bytes bytes => some bytes
    | _ => none

/-- Text under a tag that may be repeated. -/
def texts? (tag : Nat) (fields : List Field) : Option (List String) := do
  let runs ← runs? tag fields
  runs.mapM fun bytes => String.fromUTF8? ⟨bytes.toArray⟩

/-- The text under a tag, of which the last one counts; nothing is an empty text. -/
def text? (tag : Nat) (fields : List Field) : Option String :=
  (texts? tag fields).map fun texts => texts.getLastD ""

/-- The messages under a tag that may be repeated. -/
def messages? (tag : Nat) (fields : List Field) : Option (List (List Field)) := do
  let runs ← runs? tag fields
  runs.mapM read?

/-- The message under a tag, if there is one; what is given in several pieces belongs together. -/
def message? (tag : Nat) (fields : List Field) : Option (Option (List Field)) :=
  (messages? tag fields).map fun
    | [] => none
    | pieces => some pieces.flatten

/-- The words of a run of bytes, of which there are at most `fuel`. -/
def packedWords? : Nat → List UInt8 → Option (List Nat)
  | _, [] => some []
  | 0, _ => none
  | fuel + 1, bytes => do
    let (word, rest) ← readWord? bytes
    let words ← packedWords? fuel rest
    return word :: words

/-- The numbers under a tag that may be repeated, one by one or packed. -/
def numbers? (tag : Nat) (fields : List Field) : Option (List Int) := do
  let words ← (under tag fields).mapM fun
    | .number word => some [word]
    | .bytes bytes => packedWords? bytes.length bytes
    | _ => none
  return words.flatten.map Word.signed

/-- The number under a tag, of which the last one counts. -/
def number? (tag : Nat) (fields : List Field) : Option (Option Int) := do
  let words ← (under tag fields).mapM fun
    | .number word => some word
    | _ => none
  return words.getLast?.map Word.signed

/-- The number of 32 bits under a tag, of which the last one counts; nothing is zero. -/
def code? (tag : Nat) (fields : List Field) : Option Int :=
  (number? tag fields).map fun value => Word.signedHalf (value.getD 0)

/-- The bytes of groups of four or eight under a tag that may be repeated, one by one or packed. -/
def groups? (tag : Nat) (fields : List Field) : Option (List UInt8) := do
  let groups ← (under tag fields).mapM fun
    | .fixed32 bytes | .fixed64 bytes | .bytes bytes => some bytes
    | _ => none
  return groups.flatten

end Message
end Holdout
