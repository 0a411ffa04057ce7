import Holdout.Image.Jpeg.Picture
import Holdout.Image.Jpeg.Segment
import Holdout.Image.Jpeg.Window

/-!
# Pictures written block by block

All waves of a block are written at once: its mean, as the difference to the block before, and then
its other waves with the number of waves that are passed over. The blocks of all components can
come together, unit by unit, or one component after the other. When bits are no code, or the file
has ended, what is known of the picture so far is shown.
-/

namespace Holdout
namespace Jpeg

/-- The place of a wave that may lie behind the last one. It is the last place, if its code and its
value are short, and else the place that is found when counting begins anew. -/
def placeOrLast (index bits : Nat) (value : Int) : Nat :=
  if bits ≤ 9 ∧ -128 ≤ value ∧ value ≤ 127 then wavePlace (min index 63) else wavePlace index

/-- Read the mean of a block. The mean of the block before is given. -/
def readMean? (bytes : ByteArray) (code : PrefixCode) (mean : Int) (window : Window) :
    Option (Int × Window) := do
  let (size, _, window) ← (window.filled bytes).symbol? code
  let (difference, window) := window.takeSigned size
  return (mean + difference, window)

/-- Read the waves of a block from the one at `index` on, of which there are at most `fuel`. -/
def readWaves? (bytes : ByteArray) (code : PrefixCode) :
    Nat → Nat → Array Int → Window → Option (Array Int × Window)
  | 0, _, waves, window => some (waves, window)
  | fuel + 1, index, waves, window =>
    if 64 ≤ index then some (waves, window)
    else do
      let (symbol, length, window) ← (window.filled bytes).symbol? code
      let skipped := symbol / 16
      let size := symbol % 16
      if size = 0 then
        if skipped = 15 then readWaves? bytes code fuel (index + 16) waves window
        else return (waves, window)
      else
        let (value, window) := window.takeSigned size
        let place := placeOrLast (index + skipped) (length + size) value
        readWaves? bytes code fuel (index + skipped + 1) (waves.setIfInBounds place value) window

/-- What is known in the middle of a picture. -/
structure Progress where
  setup : Setup
  window : Window
  /-- The mean of the last block of each component. -/
  means : Array Int
  /-- The number of units up to a fresh start, or zero. -/
  left : Nat
  planes : Array Plane

/-- Why a row of units ends early. -/
inductive Stop
  /-- The file is no image. -/
  | unreadable
  /-- There are bits that are no code. -/
  | stuck (progress : Progress)
  /-- Another scan follows. -/
  | newScan (progress : Progress)
  /-- There is no more to read. -/
  | over (progress : Progress)

namespace Progress

/-- The codes of a component. -/
def codes? (setup : Setup) (member : Nat) : Option (PrefixCode × PrefixCode) := do
  let frame ← setup.frame
  let component ← frame.components[member]?
  return (← lookUp? component.means setup.means, ← lookUp? component.waves setup.waves)

/-- Read a block of a component. -/
def readBlock (bytes : ByteArray) (layout : Layout) (progress : Progress) (block : Nat × Nat) :
    Except Stop Progress :=
  let (member, place) := block
  match codes? progress.setup member, layout.parts[member]? with
  | some (means, waves), some part =>
    match readMean? bytes means (progress.means.getD member 0) progress.window with
    | none => .error (.stuck progress)
    | some (mean, window) =>
      match readWaves? bytes waves 64 1 (noWaves.setIfInBounds 0 mean) window with
      | none => .error (.stuck progress)
      | some (values, window) => .ok { progress with
          window
          means := progress.means.setIfInBounds member mean
          planes := progress.planes.modify member fun plane => { plane with
            blocks := plane.blocks.setIfInBounds place (shades (scaledWaves part.steps values)) } }
  | _, _ => .error .unreadable

/-- Start afresh: there are no bits, and means are differences to zero. -/
def restarted (progress : Progress) : Progress :=
  { progress with
    window := progress.window.cleared
    means := progress.means.map fun _ => 0 }

/-- Read the segment behind a mark that has been found among the blocks. -/
def readSegment (bytes : ByteArray) (isSplit : Bool) (mark : UInt8) (progress : Progress) :
    Except Stop Progress :=
  match readSegment? bytes mark progress.window.place progress.setup with
  | none => .error .unreadable
  | some (setup, place) =>
    let progress := { progress with
      setup
      window := { progress.window with mark := none, place }
      left := if mark = intervalMark then setup.interval else progress.left }
    if mark = scanMark then .error (.newScan progress.restarted)
    else if isSplit then
      match readUpToScan? bytes bytes.size place setup with
      | none => .error (.over progress)
      | some (setup, place) => .error (.newScan { progress with
          setup
          window := { progress.window with place } }.restarted)
    else .ok progress

/-- At the end of a unit, heed the mark that has been found. -/
def endUnit (bytes : ByteArray) (isSplit : Bool) (progress : Progress) : Except Stop Progress :=
  let isDue := progress.left == 1
  let progress := { progress with
    left := if isDue then progress.setup.interval else progress.left - 1 }
  match progress.window.mark with
  | none => .ok progress
  | some mark =>
    if mark = endMark then .ok { progress with window := progress.window.closed }
    else if isRestart mark then .ok (if isDue then progress.restarted else progress)
    else readSegment bytes isSplit mark progress

/-- Read a row of units. -/
def readRow (bytes : ByteArray) (layout : Layout) (isSplit : Bool) (row : Nat)
    (progress : Progress) : Except Stop Progress :=
  (List.range layout.unitsAcross).foldlM (fun progress column => do
    let unit := layout.unit progress.setup.scan.members column row
    endUnit bytes isSplit (← unit.foldlM (readBlock bytes layout) progress)) progress

/-- Begin a row of units with the shades of the row above, which stay where nothing is read. -/
def withRowAbove (layout : Layout) (row : Nat) (progress : Progress) : Progress :=
  if row = 0 then progress
  else { progress with
    planes := layout.parts.zipIdx.foldl (fun planes (part, member) =>
      planes.modify member fun plane => { plane with
        blocks := (List.range (layout.blocksAcross part * part.down)).foldl (fun blocks place =>
          let size := layout.blocksAcross part * part.down
          blocks.setIfInBounds (row * size + place) (blocks.getD ((row - 1) * size + place) #[]))
            plane.blocks }) progress.planes }

/-- The byte that stands for what is missing where the file is damaged. -/
def missing : UInt8 := 128

/-- Read rows of units. A picture whose components come together is known up to the row where
reading ends; one whose components come one after the other is known as a whole, or not at all. -/
def readRows (bytes : ByteArray) (layout : Layout) (isSplit : Bool) :
    Nat → Nat → Progress → Option (Picture ⊕ Progress)
  | 0, row, progress => some (.inl ⟨progress.planes, row, missing⟩)
  | count + 1, row, progress =>
    if progress.window.isOverdrawn then
      some (.inl ⟨progress.planes, if isSplit then row + (count + 1) else row, missing⟩)
    else
      let progress := if isSplit then progress else progress.withRowAbove layout row
      match readRow bytes layout isSplit row progress with
      | .ok progress => readRows bytes layout isSplit count (row + 1) progress
      | .error .unreadable => none
      | .error (.stuck progress) =>
        some (.inl ⟨progress.planes, if isSplit then 0 else row + 1, missing⟩)
      | .error (.over progress) => some (.inl ⟨progress.planes, row + (count + 1), missing⟩)
      | .error (.newScan progress) =>
        some (if isSplit then .inr progress else .inl ⟨progress.planes, row + 1, 0⟩)

/-- Read scans, of which there are at most `fuel`. -/
def readScans (bytes : ByteArray) (layout : Layout) (isSplit : Bool) :
    Nat → Progress → Option Picture
  | 0, _ => none
  | fuel + 1, progress => do
    match ← readRows bytes layout isSplit layout.unitsDown 0 progress with
    | .inl picture => return picture
    | .inr progress => readScans bytes layout isSplit fuel progress

end Progress

/-- Read a picture from a place behind its segments. -/
def readSequential? (bytes : ByteArray) (layout : Layout) (setup : Setup) (place : Nat) :
    Option Picture :=
  if (List.range layout.parts.size).all fun member => (Progress.codes? setup member).isSome then
    Progress.readScans bytes layout (setup.scan.members.length != layout.parts.size) bytes.size
      { setup
        window := .ofPlace place
        means := layout.parts.map fun _ => 0
        left := setup.interval
        planes := layout.parts.map fun part =>
          ⟨layout.blocksAcross part, Array.replicate (layout.blockCount part) #[]⟩ }
  else none

end Jpeg
end Holdout
