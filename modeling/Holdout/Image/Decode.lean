import Holdout.Dataset
import Holdout.Image.Jpeg
import Holdout.Image.Normalize
import Holdout.Image.Png

/-!
# Encoded images

The kind of an encoded image is told by its first bytes. A classifier takes an encoded image
decoded and normalized.
-/

namespace Holdout
namespace RgbImage

/-- An image that has been read, or the failure to do so. -/
def orUnreadable (image : Option RgbImage) : Except Failure RgbImage :=
  match image with
  | some image => .ok image
  | none => .error (.during .decodingImage (.within .image))

/-- Decode an image. -/
def decode (bytes : ByteArray) : Except Failure RgbImage :=
  match Png.readContents? bytes with
  | some contents =>
    if contents.breaksDown then .error .breakdown else orUnreadable contents.image?
  | none => orUnreadable (Jpeg.read? bytes)

/-- Decode an image and make it the input of a classifier. -/
def decodeNormalized (bytes : ByteArray) : Except Failure Tensor :=
  (decode bytes).map normalized

end RgbImage

/-- The preprocessor for image classifiers. -/
def classifierPreprocessor : Preprocessor := .image RgbImage.decodeNormalized

end Holdout
