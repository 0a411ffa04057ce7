import Holdout.Image.Jpeg.Setup

/-!
# Segments of an image file

A mark is a byte of ones and a code behind it. Most marks begin a segment, whose size follows.
Bytes between segments are passed over.
-/

namespace Holdout
namespace Jpeg

/-- The mark behind the picture. -/
def endMark : UInt8 := 0xD9

/-- The mark of a scan. -/
def scanMark : UInt8 := 0xDA

/-- The mark of how often the codes start afresh. -/
def intervalMark : UInt8 := 0xDD

/-- Here the codes start afresh. -/
def isRestart (mark : UInt8) : Bool := 0xD0 ≤ mark && mark ≤ 0xD7

/-- The mark is of a kind of picture that cannot be read. -/
def isUnreadable (mark : UInt8) : Bool :=
  mark == 0xDC || (0xC3 ≤ mark && mark ≤ 0xCF && mark != 0xC4 && mark != 0xC8)

/-- The next mark from a place on, and the place behind it. -/
def nextMark? (bytes : ByteArray) (place : Nat) : Option (UInt8 × Nat) :=
  if h : place + 1 < bytes.size then
    let mark := bytes[place + 1]
    if bytes[place] = 0xFF ∧ mark ≠ 0 ∧ mark ≠ 0xFF then some (mark, place + 2)
    else nextMark? bytes (place + 1)
  else none
termination_by bytes.size - place

/-- The size of the segment at a place. -/
def segmentSize? (bytes : ByteArray) (place : Nat) : Option Nat := do
  let size := pair (← bytes[place]?) (← bytes[place + 1]?)
  if size < 2 then none else return size

/-- The reader of the contents of a segment, if they are of use. -/
def Setup.reader? (mark : UInt8) : Option (List UInt8 → Setup → Option Setup) :=
  if mark = 0xC0 ∨ mark = 0xC1 then some (readFrame? false)
  else if mark = 0xC2 then some (readFrame? true)
  else if mark = 0xC4 then some fun data => readCodes? data.length data
  else if mark = 0xDB then some fun data => readSteps? data.length data
  else if mark = scanMark then some readScan?
  else if mark = intervalMark then some readInterval?
  else if mark = 0xEE then some readColours?
  else none

/-- Read the segment at a place behind its mark. The result is the place behind it. -/
def readSegment? (bytes : ByteArray) (mark : UInt8) (place : Nat) (setup : Setup) :
    Option (Setup × Nat) :=
  if mark = endMark ∨ isUnreadable mark then none
  else do
    let size ← segmentSize? bytes place
    match Setup.reader? mark with
    | none => return (setup, place + size)
    | some read? =>
      if bytes.size < place + size then none
      else
        let setup ← read? (bytes.extract (place + 2) (place + size)).toList setup
        return (setup, place + size)

/-- Read segments up to a scan, of which there are at most `fuel`. -/
def readUpToScan? (bytes : ByteArray) : Nat → Nat → Setup → Option (Setup × Nat)
  | 0, _, _ => none
  | fuel + 1, place, setup => do
    let (mark, place) ← nextMark? bytes place
    let (setup, place) ← readSegment? bytes mark place setup
    if mark = scanMark then return (setup, place) else readUpToScan? bytes fuel place setup

end Jpeg
end Holdout
