import Holdout.Image.Jpeg.Setup

/-!
# The layout of a picture

Components can be of different fineness. A unit holds blocks of all of them that show the same part
of the picture, and units follow each other row by row.
-/

namespace Holdout
namespace Jpeg

/-- A component with the steps of its waves. -/
structure Part where
  /-- The number of blocks beside each other in a unit. -/
  across : Nat
  /-- The number of blocks below each other in a unit. -/
  down : Nat
  /-- The steps by the places of the waves in a block. -/
  steps : Array Nat
  deriving DecidableEq, Repr

/-- The components of a picture, how they make colours, and the picture's size. -/
structure Layout where
  width : Nat
  height : Nat
  colours : Colours
  parts : Array Part
  deriving DecidableEq, Repr

namespace Layout

/-- The greatest number of blocks beside each other. -/
def across (layout : Layout) : Nat := layout.parts.foldl (fun most part => max most part.across) 1

/-- The greatest number of blocks below each other. -/
def down (layout : Layout) : Nat := layout.parts.foldl (fun most part => max most part.down) 1

/-- The number of units in a row. -/
def unitsAcross (layout : Layout) : Nat :=
  (layout.width + (8 * layout.across - 1)) / (8 * layout.across)

/-- The number of rows of units. -/
def unitsDown (layout : Layout) : Nat :=
  (layout.height + (8 * layout.down - 1)) / (8 * layout.down)

/-- The number of blocks of a component in a row. -/
def blocksAcross (layout : Layout) (part : Part) : Nat := part.across * layout.unitsAcross

/-- The number of blocks of a component. -/
def blockCount (layout : Layout) (part : Part) : Nat :=
  layout.blocksAcross part * (part.down * layout.unitsDown)

/-- The places of a component's blocks in a unit. -/
def blocksOf (layout : Layout) (part : Part) (column row : Nat) : List Nat :=
  (List.range part.down).flatMap fun below => (List.range part.across).map fun beside =>
    (row * part.down + below) * layout.blocksAcross part + column * part.across + beside

/-- The components that a scan has in a unit and the places of their blocks. -/
def unit (layout : Layout) (members : List Nat) (column row : Nat) : List (Nat × Nat) :=
  members.flatMap fun member => match layout.parts[member]? with
    | some part => (layout.blocksOf part column row).map (member, ·)
    | none => []

end Layout

/-- The identifiers of components that are red, green and blue. -/
def rgbIds : List UInt8 := "RGB".toUTF8.toList

/-- How components make colours, when all has been said. -/
def Colours.settled (colours : Colours) (components : List Component) : Colours :=
  if components.map (·.id) = rgbIds ∨ (components.length = 3 ∧ colours = .inks) then .rgb
  else colours

/-- Steps by the places of the waves, from steps in the order of waves. -/
def placedSteps (steps : List Nat) : Array Nat :=
  steps.zipIdx.foldl (fun placed (step, index) => placed.setIfInBounds (wavePlace index) step)
    (Array.replicate 64 0)

/-- The layout of the picture, if there are as many components as colours need. The blocks of a
single component are units of their own. -/
def Setup.layout? (setup : Setup) : Option Layout := do
  let frame ← setup.frame
  let colours := setup.colours.settled frame.components
  if frame.components.length < colours.size then none
  else
    let parts ← frame.components.mapM fun component => do
      let steps := placedSteps (← lookUp? component.steps setup.steps)
      return if colours = .grey then Part.mk 1 1 steps
        else Part.mk component.across component.down steps
    return ⟨frame.width, frame.height, colours, parts.toArray⟩

end Jpeg
end Holdout
