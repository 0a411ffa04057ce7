import Holdout.Image.Jpeg.Picture
import Holdout.Image.Jpeg.Segment
import Holdout.Image.Jpeg.Sequential
import Holdout.Image.Jpeg.Window

/-!
# Pictures written layer by layer

Each scan adds to all blocks: it brings some of their waves without their low bits, or one more bit
of waves that are there. A code can say that the rest of several blocks is empty. The first scan
must be whole; where a later one is damaged, what is known so far is shown.
-/

namespace Holdout
namespace Jpeg

/-- The number that a word of 16 bits holds for an integer. -/
def wrappedHalf (value : Int) : Int := Int.bmod value 65536

/-- A block in the middle of a scan. -/
structure Passage where
  waves : Array Int
  window : Window
  /-- The number of blocks whose rest is empty. -/
  empties : Nat

namespace Passage

/-- The block with a wave changed. -/
def set (passage : Passage) (place : Nat) (value : Int) : Passage :=
  { passage with waves := passage.waves.setIfInBounds place (wrappedHalf value) }

/-- Read how many blocks there are whose rest is empty. -/
def readEmpties (size : Nat) (passage : Passage) : Passage :=
  let (more, window) := passage.window.take size
  { passage with window, empties := Nat.pow 2 size + more }

/-- Read the first layer of waves up to the one at `last`. The result on the left is what has been
read up to bits that are no code. -/
def readFirst (bytes : ByteArray) (code : PrefixCode) (unit : Nat) (last : Nat) :
    Nat → Nat → Passage → Passage ⊕ Passage
  | 0, _, passage => .inr passage
  | fuel + 1, index, passage =>
    match (passage.window.filled bytes).symbol? code with
    | none => .inl passage
    | some (symbol, length, window) =>
      let passage := { passage with window }
      let skipped := symbol / 16
      let size := symbol % 16
      if size = 0 ∧ skipped < 15 then
        let passage := passage.readEmpties skipped
        .inr { passage with empties := passage.empties - 1 }
      else
        let (index, passage) :=
          if size = 0 then (index + 16, passage)
          else
            let (value, window) := window.takeSigned size
            let place := placeOrLast (index + skipped) (length + size) value
            (index + skipped + 1, { passage with window }.set place (value * unit))
        if last < index then .inr passage else readFirst bytes code unit last fuel index passage

/-- Read the next bit of a wave that is not zero. -/
def refineWave (unit : Nat) (place : Nat) (passage : Passage) : Passage :=
  let value := passage.waves.getD place 0
  let (isMore, window) := passage.window.takeBit
  let passage := { passage with window }
  if isMore ∧ value / unit % 2 = 0 then
    passage.set place (if 0 ≤ value then value + unit else value - unit)
  else passage

/-- Read the next bit of the waves that are not zero, passing over so many that are. The result says
at which wave this ends. -/
def refineUp (bytes : ByteArray) (unit last : Nat) :
    Nat → Nat → Nat → Passage → Nat × Passage
  | 0, index, _, passage => (index, passage)
  | fuel + 1, index, skipped, passage =>
    let place := wavePlace index
    if passage.waves.getD place 0 = 0 then
      if skipped = 0 ∨ index = last then (index, passage)
      else refineUp bytes unit last fuel (index + 1) (skipped - 1) passage
    else
      let passage := passage.refineWave unit place
      let passage := { passage with window := passage.window.filledIfEmpty bytes }
      if index = last then (index, passage)
      else refineUp bytes unit last fuel (index + 1) skipped passage

/-- Read the next bit of all waves from one to another that are not zero. -/
def refineRest (bytes : ByteArray) (unit : Nat) (indices : List Nat) (passage : Passage) : Passage :=
  indices.foldl (fun passage index =>
    let place := wavePlace index
    let passage :=
      if passage.waves.getD place 0 = 0 then passage else passage.refineWave unit place
    { passage with window := passage.window.filledIfEmpty bytes }) passage

/-- Read the part of a refining layer up to blocks whose rest is empty. The result names the wave
where the rest begins. -/
def readNew (bytes : ByteArray) (code : PrefixCode) (unit last : Nat) :
    Nat → Nat → Passage → Passage ⊕ (Nat × Passage)
  | 0, index, passage => .inr (index, passage)
  | fuel + 1, index, passage =>
    match (passage.window.filled bytes).symbol? code with
    | none => .inl passage
    | some (symbol, _, window) =>
      let passage := { passage with window }
      let skipped := symbol / 16
      let size := symbol % 16
      if size = 0 ∧ skipped < 15 then .inr (index, passage.readEmpties skipped)
      else if 1 < size then .inl passage
      else
        let (isMore, window) := if size = 0 then (false, window) else window.takeBit
        let passage := { passage with window }
        let (index, passage) :=
          if last < index then (index, passage)
          else refineUp bytes unit last 64 index skipped passage
        let passage :=
          if size = 0 then passage
          else passage.set (wavePlace index) (if isMore then unit else -unit)
        if last < index + 1 then .inr (index + 1, passage)
        else readNew bytes code unit last fuel (index + 1) passage

/-- Read a refining layer of waves up to the one at `last`. -/
def readRefining (bytes : ByteArray) (code : PrefixCode) (unit first last : Nat)
    (passage : Passage) : Passage ⊕ Passage :=
  let begun := if passage.empties = 0 then readNew bytes code unit last 64 first passage
    else .inr (first, passage)
  match begun with
  | .inl passage => .inl passage
  | .inr (index, passage) =>
    if passage.empties = 0 then .inr passage
    else
      let passage :=
        if (passage.waves.toList.drop 1).all (· == 0) then passage
        else
          let indices := (List.range (last + 1)).drop index
          { passage with window := passage.window.filled bytes }.refineRest bytes unit indices
      .inr { passage with empties := passage.empties - 1 }

end Passage

/-- What is known in the middle of a layered picture. -/
structure Layers where
  setup : Setup
  window : Window
  /-- The mean of the last block of each component. -/
  means : Array Int
  /-- The number of units up to a fresh start, or zero. -/
  left : Nat
  /-- The number of blocks whose rest is empty. -/
  empties : Nat
  /-- The waves of the blocks of each component. -/
  blocks : Array (Array (Array Int))

namespace Layers

/-- Begin a scan. -/
def begun (layers : Layers) : Layers :=
  { layers with
    window := layers.window.cleared
    means := layers.means.map fun _ => 0
    left := layers.setup.interval
    empties := 0 }

/-- The code under the number that a component of the picture has for it. -/
def code? (layers : Layers) (codes : Setup → List (Nat × PrefixCode)) (number : Component → Nat)
    (member : Nat) : Option PrefixCode := do
  let frame ← layers.setup.frame
  lookUp? (number (← frame.components[member]?)) (codes layers.setup)

/-- The block of a component in which a scan goes on. -/
def passage? (layers : Layers) (member place : Nat) : Option Passage := do
  return ⟨← (← layers.blocks[member]?)[place]?, layers.window, layers.empties⟩

/-- Put a block back. -/
def put (layers : Layers) (member place : Nat) (passage : Passage) : Layers :=
  { layers with
    window := passage.window
    empties := passage.empties
    blocks := layers.blocks.modify member fun blocks =>
      blocks.setIfInBounds place passage.waves }

/-- Read the mean of a block, or the next bit of it. -/
def readMean (bytes : ByteArray) (layers : Layers) (block : Nat × Nat) : Layers ⊕ Layers :=
  let (member, place) := block
  let unit := Nat.pow 2 layers.setup.scan.low
  match layers.passage? member place with
  | none => .inl layers
  | some passage =>
    if layers.setup.scan.high = 0 then
      match layers.code? (·.means) (·.means) member with
      | none => .inl layers
      | some code =>
        match readMean? bytes code (layers.means.getD member 0) layers.window with
        | none => .inl layers
        | some (mean, window) =>
          .inr { (layers.put member place ({ passage with window }.set 0 (mean * unit))) with
            means := layers.means.setIfInBounds member mean }
    else
      let (isMore, window) := (passage.window.filledIfEmpty bytes).takeBit
      let passage := { passage with window }
      let mean := passage.waves.getD 0 0
      .inr (layers.put member place (if isMore then passage.set 0 (mean + unit) else passage))

/-- Read the waves of a block behind its mean, or the next bits of them. -/
def readOthers (bytes : ByteArray) (layers : Layers) (block : Nat × Nat) : Layers ⊕ Layers :=
  let (member, place) := block
  let scan := layers.setup.scan
  let unit := Nat.pow 2 scan.low
  if scan.high = 0 ∧ 0 < layers.empties then .inr { layers with empties := layers.empties - 1 }
  else match layers.passage? member place, layers.code? (·.waves) (·.waves) member with
    | some passage, some code =>
      (if scan.high = 0 then Passage.readFirst bytes code unit scan.last 64 scan.first passage
        else Passage.readRefining bytes code unit scan.first scan.last passage).elim
          (fun passage => .inl (layers.put member place passage))
          (fun passage => .inr (layers.put member place passage))
    | _, _ => .inl layers

/-- At the end of a unit, start afresh if it is time to. -/
def endUnit (layers : Layers) : Layers :=
  let isDue := layers.left == 1
  let left := if isDue then layers.setup.interval else layers.left - 1
  if isDue ∧ layers.window.mark.any isRestart then { layers.begun with left }
  else { layers with left }

/-- The blocks of a scan, unit by unit. The blocks of a component that comes alone are units. -/
def units (layout : Layout) (members : List Nat) : List (List (Nat × Nat)) :=
  match members with
  | [member] =>
    match layout.parts[member]? with
    | none => []
    | some part =>
      let isPlain := part.across = 1 ∧ part.down = 1
      let width := if isPlain then layout.unitsAcross else (layout.width + 7) / 8
      let height := if isPlain then layout.unitsDown else (layout.height + 7) / 8
      (List.range height).flatMap fun row => (List.range width).map fun column =>
        [(member, row * layout.blocksAcross part + column)]
  | _ =>
    (List.range layout.unitsDown).flatMap fun row => (List.range layout.unitsAcross).map fun column =>
      layout.unit members column row

/-- Means and other waves are not in the same scan, and only means of several components. -/
def isMixed (scan : Scan) : Bool :=
  scan.last != 0 && (scan.first == 0 || scan.members.length != 1)

/-- Read units one after the other, as long as there are codes. -/
def readUnits (read : Layers → Nat × Nat → Layers ⊕ Layers) :
    List (List (Nat × Nat)) → Layers → Layers ⊕ Layers
  | [], layers => .inr layers
  | unit :: units, layers =>
    match unit.foldl (fun (state : Layers ⊕ Layers) block => state.elim .inl (read · block))
      (.inr layers) with
    | .inl layers => .inl layers
    | .inr layers => readUnits read units layers.endUnit

/-- Read a scan. The result on the left is what is known where it breaks off. -/
def readScan (bytes : ByteArray) (layout : Layout) (layers : Layers) : Layers ⊕ Layers :=
  let layers := layers.begun
  let scan := layers.setup.scan
  let hasMeans := scan.first = 0 ∨ 1 < scan.members.length
  let number (component : Component) : Nat :=
    if hasMeans then component.means else component.waves
  let codes (setup : Setup) : List (Nat × PrefixCode) :=
    if hasMeans then setup.means else setup.waves
  if isMixed scan ∨ scan.members.any fun member => (layers.code? codes number member).isNone then
    .inl layers
  else
    readUnits (if hasMeans then readMean bytes else readOthers bytes)
      (units layout scan.members) layers

/-- The next mark from the end of a scan on, and the place behind it. -/
def nextMark? (bytes : ByteArray) (window : Window) : Option (UInt8 × Nat) :=
  match window.mark with
  | some mark => some (mark, window.place)
  | none => Jpeg.nextMark? bytes window.place

/-- Read what follows behind a scan: segments, of which there are at most `fuel`, and scans, whose
number is limited. -/
def readFurther? (bytes : ByteArray) (layout : Layout) : Nat → Nat → Layers → Option Layers
  | 0, _, layers => some layers
  | fuel + 1, scans, layers =>
    match nextMark? bytes layers.window with
    | none => some layers
    | some (mark, place) =>
      if mark = endMark then some layers
      else if isRestart mark then
        readFurther? bytes layout fuel scans
          { layers with window := { layers.window.cleared with place } }
      else do
        let (setup, place) ← readSegment? bytes mark place layers.setup
        let layers := { layers with setup, window := { layers.window.cleared with place } }
        if mark ≠ scanMark then readFurther? bytes layout fuel scans layers
        else match readScan bytes layout layers with
          | .inl layers => some layers
          | .inr layers =>
            if scans = 0 ∧ (nextMark? bytes layers.window).isSome then none
            else readFurther? bytes layout fuel (scans - 1) layers

/-- The picture of what is known. -/
def picture (layout : Layout) (layers : Layers) : Picture where
  planes := layout.parts.zipIdx.map fun (part, member) =>
    ⟨layout.blocksAcross part,
      (layers.blocks.getD member #[]).map fun waves => shades (scaledWaves part.steps waves)⟩
  unitRows := layout.unitsDown
  rest := 0

end Layers

/-- The greatest number of scans of a layered picture. -/
def maxScans : Nat := 100

/-- Read a layered picture from a place behind its segments. -/
def readLayered? (bytes : ByteArray) (layout : Layout) (setup : Setup) (place : Nat) :
    Option Picture :=
  let layers : Layers :=
    { setup
      window := .ofPlace place
      means := layout.parts.map fun _ => 0
      left := 0
      empties := 0
      blocks := layout.parts.map fun part =>
        Array.replicate (layout.blockCount part) noWaves }
  match layers.readScan bytes layout with
  | .inl layers => some (layers.picture layout)
  | .inr layers =>
    if layers.window.mark.isNone then none
    else (layers.readFurther? bytes layout bytes.size (maxScans - 1)).map (·.picture layout)

end Jpeg
end Holdout
