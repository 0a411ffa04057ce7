import Holdout.Image.PrefixCode
import Holdout.Image.Jpeg.Wave

/-!
# What is said before the picture

An image file is a sequence of segments, each behind a mark. Segments give the steps of the waves,
the prefix codes, the frame of the picture with its components, how components make colours, and
how often the codes start afresh. A scan says which components follow, and which of their waves.
-/

namespace Holdout
namespace Jpeg

/-- How the components of a picture make colours. -/
inductive Colours
  /-- One component: the shade of grey. -/
  | grey
  /-- Two components, which are no colours. -/
  | pair
  /-- Red, green and blue. -/
  | rgb
  /-- Brightness, and the differences of blue and red to it. -/
  | brightness
  /-- What three inks leave of red, green and blue, and what black leaves of all. -/
  | inks
  /-- Inks that are written as brightness and differences, and black. -/
  | brightnessAndBlack
  deriving DecidableEq, Repr

/-- The least number of components. -/
def Colours.size : Colours → Nat
  | .grey => 1
  | .pair => 2
  | .rgb | .brightness => 3
  | .inks | .brightnessAndBlack => 4

/-- A component of a picture. -/
structure Component where
  id : UInt8
  /-- The number of blocks beside each other in a unit. -/
  across : Nat
  /-- The number of blocks below each other in a unit. -/
  down : Nat
  /-- The number of the table of steps. -/
  steps : Nat
  /-- The number of the code for means. -/
  means : Nat
  /-- The number of the code for waves. -/
  waves : Nat
  deriving DecidableEq, Repr

/-- The frame of a picture. -/
structure Frame where
  width : Nat
  height : Nat
  /-- The waves come in layers, each finer than those before. -/
  isLayered : Bool
  components : List Component
  deriving DecidableEq, Repr

/-- What follows behind the segments. -/
structure Scan where
  /-- The components by their places in the frame. -/
  members : List Nat
  /-- The first wave of each block. -/
  first : Nat
  /-- The last wave of each block. -/
  last : Nat
  /-- The number of low bits that the layer before has left out; zero if there is none. -/
  high : Nat
  /-- The number of low bits that are left out. -/
  low : Nat
  deriving DecidableEq, Repr

/-- What has been said. -/
structure Setup where
  /-- Steps of the waves, in the order of waves, by the number of their table. -/
  steps : List (Nat × List Nat)
  /-- Codes of means by their number. -/
  means : List (Nat × PrefixCode)
  /-- Codes of waves by their number. -/
  waves : List (Nat × PrefixCode)
  /-- The number of units between fresh starts, or zero. -/
  interval : Nat
  colours : Colours
  frame : Option Frame
  scan : Scan

/-- Nothing has been said. -/
def Setup.empty : Setup := ⟨[], [], [], 0, .brightness, none, ⟨[], 0, 0, 0, 0⟩⟩

/-- The value under a number. -/
def lookUp? (number : Nat) (entries : List (Nat × α)) : Option α :=
  (entries.find? fun entry => entry.1 = number).map Prod.snd

/-- The number of two bytes. -/
def pair (high low : UInt8) : Nat := 256 * high.toNat + low.toNat

/-- Big-endian numbers of two bytes each. -/
def pairs : List UInt8 → List Nat
  | high :: low :: rest => pair high low :: pairs rest
  | _ => []

/-- Read tables of steps, of which there are at most `fuel`. -/
def Setup.readSteps? : Nat → List UInt8 → Setup → Option Setup
  | _, [], setup => some setup
  | 0, _, _ => none
  | fuel + 1, head :: rest, setup =>
    let isWide := head / 16 = 1
    let size := if isWide then 128 else 64
    if 32 ≤ head ∨ 4 ≤ head % 16 ∨ rest.length < size then none
    else
      let values := rest.take size
      let steps := if isWide then pairs values else values.map UInt8.toNat
      readSteps? fuel (rest.drop size)
        { setup with steps := (head.toNat % 16, steps) :: setup.steps }

/-- A code that leaves some bits unassigned. -/
def code? (counts : List Nat) (symbols : List Nat) : Option PrefixCode :=
  match PrefixCode.codesLeft? counts with
  | some (_ + 1) => some ⟨counts, symbols.toArray⟩
  | _ => none

/-- Read prefix codes, of which there are at most `fuel`. -/
def Setup.readCodes? : Nat → List UInt8 → Setup → Option Setup
  | _, [], setup => some setup
  | 0, _, _ => none
  | fuel + 1, head :: rest, setup =>
    let counts := (rest.take 16).map UInt8.toNat
    let total := counts.foldl (· + ·) 0
    let number := head.toNat % 16
    if 32 ≤ head ∨ 4 ≤ number ∨ 256 < total ∨ rest.length < 16 + total then none
    else do
      let symbols := ((rest.drop 16).take total).map UInt8.toNat
      let code ← code? counts symbols
      let rest := rest.drop (16 + total)
      if 16 ≤ head then readCodes? fuel rest { setup with waves := (number, code) :: setup.waves }
      else if symbols.any (15 < ·) then none
      else readCodes? fuel rest { setup with means := (number, code) :: setup.means }

/-- A number of blocks that a unit can have in one direction. -/
def isBlockCount (count : Nat) : Bool := count == 1 || count == 2 || count == 4 || count == 8

/-- Read the components of a frame. -/
def readComponents? : List UInt8 → Option (List Component)
  | [] => some []
  | id :: blocks :: steps :: rest => do
    let across := blocks.toNat / 16
    let down := blocks.toNat % 16
    if isBlockCount across && isBlockCount down && steps < 4 then
      return ⟨id, across, down, steps.toNat, 0, 0⟩ :: (← readComponents? rest)
    else none
  | _ => none

/-- Read the frame of a picture; there is only one. -/
def Setup.readFrame? (isLayered : Bool) (data : List UInt8) (setup : Setup) : Option Setup :=
  match data, setup.frame with
  | 8 :: height :: height' :: width :: width' :: count :: rest, none =>
    if pair height height' = 0 ∨ pair width width' = 0 ∨ count = 0 ∨ 4 < count ∨
      rest.length ≠ 3 * count.toNat then none
    else do
      let components ← readComponents? rest
      let colours :=
        if count = 1 then .grey
        else if count = 2 then .pair
        else if count = 4 ∧ setup.colours = .brightness then .inks
        else setup.colours
      return { setup with
        colours
        frame := some ⟨pair width width', pair height height', isLayered, components⟩ }
  | _, _ => none

/-- Read the members of a scan. -/
def readMembers? : List UInt8 → List Component → Option (List Nat × List Component)
  | id :: codes :: rest, components => do
    let place ← components.findIdx? (·.id = id)
    let (others, components) ← readMembers? rest
      (components.modify place fun component =>
        { component with means := codes.toNat / 16, waves := codes.toNat % 16 })
    if others.contains place then none else return (place :: others, components)
  | _, components => some ([], components)

/-- Read what follows behind the segments. -/
def Setup.readScan? (data : List UInt8) (setup : Setup) : Option Setup :=
  match data, setup.frame with
  | count :: rest, some frame =>
    let size := 2 * count.toNat
    match rest.drop size with
    | [first, last, layers] =>
      let high := layers.toNat / 16
      let low := layers.toNat % 16
      if count = 0 ∨ 4 < count ∨ 63 < first ∨ 63 < last ∨ 13 < high ∨ 13 < low then none
      else do
        let (members, components) ← readMembers? (rest.take size) frame.components
        return { setup with
          frame := some { frame with components }
          scan := ⟨members, first.toNat, last.toNat, high, low⟩ }
    | _ => none
  | _, _ => none

/-- The bytes that begin a note on how the components make colours. -/
def colourNote : List UInt8 := "Adobe".toUTF8.toList

/-- Read a note on how the components make colours. -/
def Setup.readColours? (data : List UInt8) (setup : Setup) : Option Setup :=
  if data.length < 12 then none
  else if data.take 5 ≠ colourNote then some setup
  else match data.drop 11 with
    | 0 :: _ => some { setup with colours := .inks }
    | 1 :: _ => some { setup with colours := .brightness }
    | 2 :: _ => some { setup with colours := .brightnessAndBlack }
    | _ => none

/-- Read how often the codes start afresh. -/
def Setup.readInterval? (data : List UInt8) (setup : Setup) : Option Setup :=
  match data with
  | [high, low] => some { setup with interval := pair high low }
  | _ => none

end Jpeg
end Holdout
