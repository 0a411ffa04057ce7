import Holdout.Image.Jpeg.Layered
import Holdout.Image.Jpeg.Sequential

/-!
# JPEG images

Pictures with one to four components, written block by block or layer by layer.
-/

namespace Holdout
namespace Jpeg

/-- The greatest size of a picture in bytes: one for each pixel that is grey, or else three. -/
def maxSize : Nat := 536870912

/-- The picture is not too large to be read. -/
def Layout.fits (layout : Layout) : Bool :=
  layout.width * layout.height * (if layout.colours = .grey then 1 else 3) ≤ maxSize

/-- Read an image. -/
def read? (bytes : ByteArray) : Option RgbImage :=
  if bytes.size < 2 ∨ bytes[0]? ≠ some 0xFF ∨ bytes[1]? ≠ some 0xD8 then none
  else do
    let (setup, place) ← readUpToScan? bytes bytes.size 2 Setup.empty
    let layout ← setup.layout?
    let isLayered := setup.frame.any (·.isLayered)
    if layout.fits then
      let picture ← (if isLayered then readLayered? else readSequential?) bytes layout setup place
      return picture.image layout
    else none

end Jpeg
end Holdout
