import Holdout.Image.PrefixCode

/-!
# A window on the bits of a picture

Bits are fetched some bytes ahead of their use, so that the mark behind a picture is known before
its last bits are used. In a picture a zero follows a byte of ones. Behind a mark, and behind the
end of the file, bits are zero.
-/

namespace Holdout
namespace Jpeg

/-- The bits that have been fetched and not yet used. -/
structure Window where
  /-- The bits as a number. -/
  value : Nat
  /-- The number of bits. -/
  count : Nat
  /-- The place of the next byte. -/
  place : Nat
  /-- The mark that has been found. -/
  mark : Option UInt8
  /-- The picture has ended. -/
  isOver : Bool
  /-- How many bits were added behind the end of the file. -/
  blanks : Nat
  deriving DecidableEq, Repr

namespace Window

/-- No bits have been fetched; the first byte is at a place. -/
def ofPlace (place : Nat) : Window := ⟨0, 0, place, none, false, 0⟩

/-- Forget the bits and the mark. -/
def cleared (window : Window) : Window :=
  { window with value := 0, count := 0, mark := none, blanks := 0 }

/-- The picture has ended. -/
def closed (window : Window) : Window := { window with mark := none, isOver := true }

/-- Add bits behind the others. -/
def push (window : Window) (size value : Nat) : Window :=
  { window with value := window.value * Nat.pow 2 size + value, count := window.count + size }

/-- The first byte from a place on that is not of ones, and the place behind it. A file that ends
before goes on with a zero. -/
def behindOnes (bytes : ByteArray) (place : Nat) : UInt8 × Nat :=
  if h : place < bytes.size then
    if bytes[place] = 0xFF then behindOnes bytes (place + 1) else (bytes[place], place + 1)
  else (0, place)
termination_by bytes.size - place

/-- Fetch a byte, unless there is a mark. -/
def fetchByte (bytes : ByteArray) (window : Window) : Window :=
  if window.mark.isSome then window
  else match bytes[window.place]? with
    | none => { window.push 8 0 with blanks := window.blanks + 8 }
    | some 0xFF =>
      match behindOnes bytes (window.place + 1) with
      | (0, place) => { window.push 8 0xFF with place }
      | (mark, place) => { window with mark := some mark, place }
    | some byte => { window.push 8 byte.toNat with place := window.place + 1 }

/-- Fetch four bytes, unless so many are there. -/
def filled (bytes : ByteArray) (window : Window) : Window :=
  if 32 ≤ window.count then window
  else if window.mark.isSome ∨ window.isOver then window.push 32 0
  else if bytes.size ≤ window.place then
    { window.push 32 0 with blanks := window.blanks + 32 }
  else fetchByte bytes (fetchByte bytes (fetchByte bytes (fetchByte bytes window)))

/-- The bit at a place among those that have been fetched. -/
def bit (window : Window) (place : Nat) : Bool :=
  place < window.count && window.value.testBit (window.count - 1 - place)

/-- Use some bits. -/
def drop (window : Window) (size : Nat) : Window :=
  let count := window.count - size
  { window with value := window.value % Nat.pow 2 count, count }

/-- Use some bits as a number. -/
def take (window : Window) (size : Nat) : Nat × Window :=
  ((List.range size).foldl (fun value place => 2 * value + (window.bit place).toNat) 0,
    window.drop size)

/-- Use some bits as a number; one that begins with a zero bit is negative. -/
def takeSigned (window : Window) (size : Nat) : Int × Window :=
  let (value, window) := window.take size
  if size = 0 then (0, window)
  else if value < Nat.pow 2 (size - 1) then ((value : Int) - Nat.pow 2 size + 1, window)
  else (value, window)

/-- Use one bit. -/
def takeBit (window : Window) : Bool × Window := (window.bit 0, window.drop 1)

/-- Fetch bits if none are there. -/
def filledIfEmpty (bytes : ByteArray) (window : Window) : Window :=
  if window.count = 0 then window.filled bytes else window

/-- Use a code: its symbol and length. -/
def symbol? (code : PrefixCode) (window : Window) : Option (Nat × Nat × Window) :=
  match code.decode (fun place => some (window.bit place)) 0 with
  | .ok (symbol, length) => some (symbol, length, window.drop length)
  | .error _ => none

/-- Bits behind the end of the file have been used. -/
def isOverdrawn (window : Window) : Bool := window.count < window.blanks

end Window
end Jpeg
end Holdout
