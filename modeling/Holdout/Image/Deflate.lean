import Holdout.Image.PrefixCode

/-!
# Compressed bytes

Bytes packed in blocks, each of them stored as it is or written in two prefix codes: one for
bytes and for the lengths of repetitions, the other for the distances at which the repeated
bytes stand. Bits are counted from the lowest bit of each byte. Where the packed bytes end too
early, what has been unpacked counts.
-/

namespace Holdout
namespace Deflate

/-- The bit at a place. -/
def bitAt? (bytes : ByteArray) (place : Nat) : Option Bool :=
  (bytes[place / 8]?).map fun byte => byte.toNat.testBit (place % 8)

/-- Why a part of a block cannot be read. -/
inductive Fault
  /-- The packed bytes end before it does. -/
  | cutOff
  | invalid
  deriving DecidableEq, Repr

/-- A fault of a prefix code. -/
def Fault.ofCode : PrefixCode.Fault → Fault
  | .cutOff => .cutOff
  | .unassigned => .invalid

/-- What there has to be in valid bytes. -/
def demand (value : Option α) : Except Fault α :=
  match value with
  | some value => .ok value
  | none => .error .invalid

/-- The number that bits make, the lowest first. -/
def bitsAt (bytes : ByteArray) (count place : Nat) : Except Fault Nat :=
  (List.range count).foldrM (fun step value =>
    match bitAt? bytes (place + step) with
    | some bit => .ok (2 * value + bit.toNat)
    | none => .error .cutOff) 0

/-- Read a symbol, and the place behind it. -/
def symbolAt (bytes : ByteArray) (code : PrefixCode) (place : Nat) : Except Fault (Nat × Nat) :=
  (code.decode (bitAt? bytes) place).mapError Fault.ofCode

/-- What has been read: the place of the next bit, and the bytes so far. -/
structure Progress where
  place : Nat
  output : ByteArray

/-- Why unpacking stops. -/
inductive Halt
  /-- The packed bytes end; these have been unpacked. -/
  | cutOff (output : ByteArray)
  | invalid

/-- A fault met when these bytes had been unpacked. -/
def Fault.after (output : ByteArray) : Fault → Halt
  | .cutOff => .cutOff output
  | .invalid => .invalid

/-- Lengths of repetitions: the least length and the number of further bits. -/
def lengthRanges : Array (Nat × Nat) :=
  #[(3, 0), (4, 0), (5, 0), (6, 0), (7, 0), (8, 0), (9, 0), (10, 0), (11, 1), (13, 1), (15, 1),
    (17, 1), (19, 2), (23, 2), (27, 2), (31, 2), (35, 3), (43, 3), (51, 3), (59, 3), (67, 4),
    (83, 4), (99, 4), (115, 4), (131, 5), (163, 5), (195, 5), (227, 5), (258, 0)]

/-- Distances of repetitions: the least distance and the number of further bits. -/
def distanceRanges : Array (Nat × Nat) :=
  #[(1, 0), (2, 0), (3, 0), (4, 0), (5, 1), (7, 1), (9, 2), (13, 2), (17, 3), (25, 3), (33, 4),
    (49, 4), (65, 5), (97, 5), (129, 6), (193, 6), (257, 7), (385, 7), (513, 8), (769, 8),
    (1025, 9), (1537, 9), (2049, 10), (3073, 10), (4097, 11), (6145, 11), (8193, 12), (12289, 12),
    (16385, 13), (24577, 13)]

/-- Read a number in a range, and the place behind it. -/
def readRange (bytes : ByteArray) (ranges : Array (Nat × Nat)) (index place : Nat) :
    Except Fault (Nat × Nat) := do
  let (least, further) ← demand ranges[index]?
  let rest ← bitsAt bytes further place
  return (least + rest, place + further)

/-- Append bytes that stand at a distance from the end, which may come to lie in what is appended. -/
def repeatBack (distance : Nat) : Nat → ByteArray → ByteArray
  | 0, output => output
  | count + 1, output =>
    let byte := (output[output.size - distance]?).getD 0
    repeatBack distance count (output.push byte)

/-- What a code of a block stands for. -/
inductive Item
  | byte (value : UInt8)
  | repetition (length distance : Nat)
  | blockEnd

/-- Read one code of a block, with the distance that follows a length, and the place behind it. -/
def readItem (bytes : ByteArray) (literals distances : PrefixCode) (place : Nat) :
    Except Fault (Item × Nat) := do
  let (symbol, place) ← symbolAt bytes literals place
  if symbol < 256 then return (.byte (UInt8.ofNat symbol), place)
  else if symbol = 256 then return (.blockEnd, place)
  else
    let (length, place) ← readRange bytes lengthRanges (symbol - 257) place
    let (index, place) ← symbolAt bytes distances place
    let (distance, place) ← readRange bytes distanceRanges index place
    return (.repetition length distance, place)

/-- Read the codes of a block to its end. -/
def readCodes (bytes : ByteArray) (literals distances : PrefixCode) :
    Nat → Progress → Except Halt Progress
  | 0, ⟨_, output⟩ => .error (.cutOff output)
  | fuel + 1, ⟨place, output⟩ =>
    match readItem bytes literals distances place with
    | .error fault => .error (fault.after output)
    | .ok (.byte value, place) => readCodes bytes literals distances fuel ⟨place, output.push value⟩
    | .ok (.blockEnd, place) => .ok ⟨place, output⟩
    | .ok (.repetition length distance, place) =>
      if output.size < distance then .error .invalid
      else readCodes bytes literals distances fuel ⟨place, repeatBack distance length output⟩

/-- The code for bytes and lengths of a block that does not bring its own. -/
def standardLiterals : PrefixCode :=
  .ofLengths (List.replicate 144 8 ++ List.replicate 112 9 ++ List.replicate 24 7 ++
    List.replicate 8 8)

/-- The code for distances of a block that does not bring its own. -/
def standardDistances : PrefixCode := .ofLengths (List.replicate 32 5)

/-- The order in which the lengths of the codes for lengths are written. -/
def lengthOrder : List Nat := [16, 17, 18, 0, 8, 7, 9, 6, 10, 5, 11, 4, 12, 3, 13, 2, 14, 1, 15]

/-- Read lengths of codes until there are `wanted`; those found are held in reverse. -/
def readLengths (bytes : ByteArray) (code : PrefixCode) (wanted : Nat) :
    Nat → Nat → List Nat → Except Fault (List Nat × Nat)
  | 0, _, _ => .error .invalid
  | fuel + 1, place, found =>
    if found.length = wanted then .ok (found.reverse, place)
    else if wanted < found.length then .error .invalid
    else do
      let (symbol, place) ← symbolAt bytes code place
      let again (length least bits : Nat) : Except Fault (List Nat × Nat) := do
        let count ← bitsAt bytes bits place
        readLengths bytes code wanted fuel (place + bits)
          (List.replicate (least + count) length ++ found)
      if symbol < 16 then readLengths bytes code wanted fuel place (symbol :: found)
      else if symbol = 16 then
        let last ← demand found.head?
        again last 3 2
      else if symbol = 17 then again 0 3 3
      else again 0 11 7

/-- Read the prefix codes that a block brings, and the place behind them. The end of the block has to
have a code. -/
def ownCodes (bytes : ByteArray) (place : Nat) :
    Except Fault (PrefixCode × PrefixCode × Nat) := do
  let literalCount := 257 + (← bitsAt bytes 5 place)
  let distanceCount := 1 + (← bitsAt bytes 5 (place + 5))
  let lengthCount := 4 + (← bitsAt bytes 4 (place + 10))
  if 286 < literalCount ∨ 30 < distanceCount then throw .invalid
  let place := place + 14
  let lengths ← (List.range lengthCount).mapM fun step => bitsAt bytes 3 (place + 3 * step)
  let ordered := (List.range 19).map fun symbol =>
    (((lengthOrder.zip lengths).find? fun entry => entry.1 = symbol).map Prod.snd).getD 0
  let code ← demand (PrefixCode.complete? ordered)
  let wanted := literalCount + distanceCount
  let (lengths, place) ← readLengths bytes code wanted (wanted + 1) (place + 3 * lengthCount) []
  if lengths.getD 256 0 = 0 then throw .invalid
  let literals ← demand (PrefixCode.complete? (lengths.take literalCount))
  let distances ← demand (PrefixCode.sparse? (lengths.drop literalCount))
  return (literals, distances, place)

/-- The number of bytes in a block that is stored as it is, which is written twice. -/
def storedSize (bytes : ByteArray) (start : Nat) : Except Fault Nat := do
  let size ← bitsAt bytes 16 (8 * start)
  let complement ← bitsAt bytes 16 (8 * start + 16)
  if size + complement = 65535 then return size else throw .invalid

/-- Read a block that is stored as it is. -/
def readStored (bytes : ByteArray) (progress : Progress) : Except Halt Progress := do
  let start := (progress.place + 7) / 8
  let size ← (storedSize bytes start).mapError (Fault.after progress.output)
  let found := bytes.extract (start + 4) (min (start + 4 + size) bytes.size)
  let output := progress.output ++ found
  if found.size = size then return ⟨8 * (start + 4 + size), output⟩ else throw (.cutOff output)

/-- Read one block. -/
def readBlock (bytes : ByteArray) (kind : Nat) (progress : Progress) : Except Halt Progress :=
  let fuel := 8 * bytes.size + 1
  match kind with
  | 0 => readStored bytes progress
  | 1 => readCodes bytes standardLiterals standardDistances fuel progress
  | 2 => do
    let (literals, distances, place) ←
      (ownCodes bytes progress.place).mapError (Fault.after progress.output)
    readCodes bytes literals distances fuel ⟨place, progress.output⟩
  | _ => .error .invalid

/-- The least number of bits that a block takes. -/
def leastBlock : Nat := 10

/-- Read blocks up to the one that is marked as the last. -/
def readBlocks (bytes : ByteArray) : Nat → Progress → Except Halt Progress
  | 0, ⟨_, output⟩ => .error (.cutOff output)
  | fuel + 1, ⟨place, output⟩ =>
    if 8 * bytes.size < place + leastBlock then .error (.cutOff output)
    else do
      let last ← (bitsAt bytes 1 place).mapError (Fault.after output)
      let kind ← (bitsAt bytes 2 (place + 1)).mapError (Fault.after output)
      let progress ← readBlock bytes kind ⟨place + 3, output⟩
      if last = 1 then return progress else readBlocks bytes fuel progress

/-- Unpack bytes behind a header of two bytes, as far as they go; a checksum may follow them. -/
def unpack? (bytes : ByteArray) : Option ByteArray := do
  let method ← bytes[0]?
  let flags ← bytes[1]?
  if method % 16 ≠ 8 ∨ 0x7F < method ∨ (256 * method.toNat + flags.toNat) % 31 ≠ 0 ∨
      flags.toNat.testBit 5 then none
  match readBlocks bytes (8 * bytes.size + 1) ⟨16, ByteArray.empty⟩ with
  | .ok progress => return progress.output
  | .error (.cutOff output) => return output
  | .error .invalid => none

end Deflate
end Holdout
