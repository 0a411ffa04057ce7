/-!
# Images

Images in three colours of eight bits each, row by row and pixel by pixel.
-/

namespace Holdout

/-- An image in red, green and blue. -/
structure RgbImage where
  width : Nat
  height : Nat
  /-- Three bytes for each pixel, the pixels row by row. -/
  bytes : ByteArray

namespace RgbImage

/-- The value of a colour of the pixel in a column and a row. -/
def valueAt (image : RgbImage) (column row channel : Nat) : UInt8 :=
  (image.bytes[(row * image.width + column) * 3 + channel]?).getD 0

/-- The image whose values are given by column, row and colour. -/
def ofFn (width height : Nat) (value : Nat → Nat → Nat → UInt8) : RgbImage where
  width := width
  height := height
  bytes := (List.range (height * width * 3)).foldl (fun bytes place =>
    bytes.push (value (place / 3 % width) (place / 3 / width) (place % 3))) ByteArray.empty

/-- There are no pixels. -/
def isEmpty (image : RgbImage) : Bool := image.width == 0 || image.height == 0

end RgbImage

end Holdout
