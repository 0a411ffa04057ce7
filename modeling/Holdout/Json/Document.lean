import Holdout.Json.Number
import Holdout.Json.Syntax

/-!
# JSON documents

Reading the values of a text: one value, or values one after the other. Arrays and
objects may be nested 127 deep, strings must be UTF-8 with paired surrogates, and of
fields with the same name the last one counts.
-/

namespace Holdout
namespace Json

/-- A part of a written string: a byte that stands for itself, or an escaped UTF-16 unit. -/
inductive StringPart
  | byte (value : UInt8)
  | codeUnit (value : Nat)
  deriving DecidableEq, Repr

/-- The byte that a one-letter escape stands for. -/
def escapedByte (letter : UInt8) : UInt8 :=
  if letter == 98 then 8
  else if letter == 102 then 12
  else if letter == 110 then 10
  else if letter == 114 then 13
  else if letter == 116 then 9
  else letter

/-- The number that four hexadecimal digits make. -/
def hexQuad (first second third fourth : UInt8) : Nat :=
  [first, second, third, fourth].foldl
    (fun value digit => 16 * value + (hexValue? digit).getD 0) 0

/-- The parts of a written string, after those already found, which are held in reverse. -/
def stringPartsFrom (before : List StringPart) : List UInt8 → List StringPart
  | 92 :: 117 :: first :: second :: third :: fourth :: rest =>
    stringPartsFrom (.codeUnit (hexQuad first second third fourth) :: before) rest
  | 92 :: letter :: rest => stringPartsFrom (.byte (escapedByte letter) :: before) rest
  | value :: rest => stringPartsFrom (.byte value :: before) rest
  | [] => before.reverse

/-- The UTF-8 bytes of a code point. -/
def utf8Bytes (code : Nat) : List UInt8 := (Char.ofNat code).toString.toUTF8.toList

/-- The UTF-8 bytes of the parts of a string; surrogates must come in pairs. -/
def bytesOfParts (before : List UInt8) : List StringPart → Option (List UInt8)
  | [] => some before.reverse
  | .byte value :: rest => bytesOfParts (value :: before) rest
  | .codeUnit high :: .codeUnit low :: rest =>
    if 0xD800 ≤ high ∧ high < 0xDC00 then
      if 0xDC00 ≤ low ∧ low < 0xE000 then
        let code := 0x10000 + (high - 0xD800) * 0x400 + (low - 0xDC00)
        bytesOfParts ((utf8Bytes code).reverse ++ before) rest
      else none
    else if 0xDC00 ≤ high ∧ high < 0xE000 then none
    else bytesOfParts ((utf8Bytes high).reverse ++ before) (.codeUnit low :: rest)
  | .codeUnit value :: rest =>
    if 0xD800 ≤ value ∧ value < 0xE000 then none
    else bytesOfParts ((utf8Bytes value).reverse ++ before) rest

/-- Read a string as it is written between its quotes. -/
def readString? (written : List UInt8) : Option String := do
  let bytes ← bytesOfParts [] (stringPartsFrom [] written)
  String.fromUTF8? ⟨bytes.toArray⟩

/-- Arrays and objects may be nested this deep. -/
def depthLimit : Nat := 127

namespace Tree

/-- Read a tree in which arrays and objects are nested at most `depth` deep. -/
def read? : Nat → Tree → Option Json
  | _, .null => some .null
  | _, .boolean value => some (.boolean value)
  | _, .number written => readNumber? written
  | _, .string written => (readString? written).map .string
  | 0, .array _ => none
  | 0, .object _ => none
  | depth + 1, .array items => (items.mapM (read? depth)).map .array
  | depth + 1, .object fields => do
    let read ← fields.foldlM (fun read (name, tree) => do
      let name ← readString? name
      let value ← read? depth tree
      return setField name value read) []
    return .object read

end Tree

/-- Read a text that is one value. -/
def parse? (text : List UInt8) : Option Json := do
  let tokens ← scan? text
  let tree ← Tree.only? tokens
  tree.read? depthLimit

/-- Read a text that is any number of values, one after the other. -/
def parseAll? (text : List UInt8) : Option (List Json) := do
  let tokens ← scan? text
  let trees ← Tree.all? tokens
  trees.mapM (Tree.read? depthLimit)

/-- A parser of texts that are one value, and one of texts that are any number of values. -/
structure Parsers where
  single? : List UInt8 → Option Json
  several? : List UInt8 → Option (List Json)

/-- The parsers at hand. -/
def parsers : Parsers := ⟨parse?, parseAll?⟩

end Json
end Holdout
