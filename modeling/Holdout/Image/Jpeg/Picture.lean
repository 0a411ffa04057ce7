import Holdout.Image.Basic
import Holdout.Image.Jpeg.Layout

/-!
# From components to colours

Coarse components are made finer, by means that weigh a near value three times as much as a far
one, and the values of a pixel's components are made a colour.
-/

namespace Holdout
namespace Jpeg

/-- The shades of a component, block by block. Blocks that are not known are black. -/
structure Plane where
  /-- The number of blocks in a row. -/
  across : Nat
  blocks : Array (Array UInt8)

/-- The values of a row of pixels. -/
def Plane.row (plane : Plane) (row : Nat) : Array Nat :=
  ((List.range plane.across).flatMap fun column =>
    let block := plane.blocks.getD (row / 8 * plane.across + column) #[]
    (List.range 8).map fun place => (block.getD (row % 8 * 8 + place) 0).toNat).toArray

/-- The mean of a near value and a far one. -/
def between (near far : Nat) : Nat := (3 * near + far + 2) / 4

/-- Twice as many values in a row. The first and the last one stay. -/
def widened (row : Array Nat) : Array Nat :=
  ((List.range row.size).flatMap fun place =>
    let near := row.getD place 0
    [if place = 0 then near else between near (row.getD (place - 1) 0),
      if place + 1 = row.size then near else between near (row.getD (place + 1) 0)]).toArray

/-- Twice as many rows. -/
def heightened (rows : Array (Array Nat)) : Array (Array Nat) :=
  ((List.range rows.size).flatMap fun place =>
    let near := rows.getD place #[]
    [near.zipWith between (rows.getD (place - 1) #[]),
      near.zipWith between (rows.getD (min (place + 1) (rows.size - 1)) #[])]).toArray

/-- The values of a row repeated and cut into rows. -/
def spread (across down : Nat) (row : Array Nat) : List (Array Nat) :=
  (List.range down).map fun below =>
    Array.ofFn fun place : Fin (row.size * across) =>
      row.getD ((below * (row.size * across) + place) / (across * down)) 0

/-- Rows with so many values and rows for each. -/
def refined (across down : Nat) (rows : Array (Array Nat)) : Array (Array Nat) :=
  if across = 1 ∧ down = 1 then rows
  else if across = 1 ∧ down = 2 then heightened rows
  else if across = 2 ∧ down = 1 then rows.map widened
  else if across = 2 ∧ down = 2 then (heightened rows).map widened
  else (rows.toList.flatMap (spread across down)).toArray

/-- Red, green and blue of a brightness and the differences of blue and red to it. -/
def rgbOfBrightness (brightness blue red : Nat) : List UInt8 :=
  let middle : Int := brightness * 16384 + 8191
  let blue : Int := (blue : Int) - 128
  let red : Int := (red : Int) - 128
  [(middle + red * 22970) / 16384, (middle - 11700 * red - 5638 * blue) / 16384,
    (middle + blue * 29032) / 16384].map clampByte

/-- What is left of a value under another one, both as parts of 255. -/
def product (value other : Nat) : UInt8 :=
  let scaled := value * other + 128
  UInt8.ofNat ((scaled + scaled / 256) / 256)

/-- The colour of a pixel. -/
def Colours.pixel : Colours → List Nat → List UInt8
  | .grey, shade :: _ => List.replicate 3 (UInt8.ofNat shade)
  | .rgb, red :: green :: blue :: _ => [red, green, blue].map UInt8.ofNat
  | .brightness, shade :: blue :: red :: _ => rgbOfBrightness shade blue red
  | .inks, red :: green :: blue :: black :: _ => [red, green, blue].map (product · black)
  | .brightnessAndBlack, shade :: blue :: red :: black :: _ =>
    (rgbOfBrightness shade blue red).map fun value => product (255 - value.toNat) black
  | .pair, values => values.map UInt8.ofNat
  | _, _ => []

/-- The bytes of a row of pixels. Where pixels have less than three values, zeros follow behind. -/
def Colours.rowBytes (colours : Colours) (width : Nat) (rows : List (Array Nat)) : List UInt8 :=
  let bytes := (List.range width).flatMap fun column =>
    colours.pixel (rows.map fun row => row.getD column 0)
  bytes ++ List.replicate (3 * width - bytes.length) 0

/-- A picture, of which only the first rows of units may be known. -/
structure Picture where
  /-- The components. -/
  planes : Array Plane
  /-- The number of rows of units that are known. -/
  unitRows : Nat
  /-- The byte that stands for what is not known. -/
  rest : UInt8

/-- The number of rows of pixels that are known. Where a row is made finer by the row below, it waits
for that one. -/
def Picture.rowCount (picture : Picture) (layout : Layout) : Nat :=
  let rows := 8 * layout.down * picture.unitRows
  let waits := layout.parts.any fun part =>
    layout.down = 2 * part.down ∧ (layout.across = part.across ∨ layout.across = 2 * part.across)
  if layout.unitsDown ≤ picture.unitRows then layout.height
  else min layout.height (if waits then rows - layout.down else rows)

/-- The image of a picture. -/
def Picture.image (picture : Picture) (layout : Layout) : RgbImage :=
  let count := picture.rowCount layout
  let planes := layout.parts.toList.zipIdx.map fun (part, place) =>
    let plane := picture.planes.getD place ⟨0, #[]⟩
    let rows := 8 * part.down * min picture.unitRows layout.unitsDown
    refined (layout.across / part.across) (layout.down / part.down)
      ((List.range rows).map plane.row).toArray
  let known := (List.range count).flatMap fun row =>
    layout.colours.rowBytes layout.width (planes.map fun rows => rows.getD row #[])
  ⟨layout.width, layout.height,
    ⟨(known ++ List.replicate (3 * layout.width * (layout.height - count)) picture.rest).toArray⟩⟩

end Jpeg
end Holdout
