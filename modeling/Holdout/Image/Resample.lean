import Holdout.Image.Basic

/-!
# Resampling

Images of another size by a windowed sinc filter of three lobes. Each sample of the result
is a weighted mean of samples around the same point of the source: first along columns,
then along rows, with rounding at the end only. All arithmetic is in single precision.
-/

namespace Holdout
namespace Resample

/-- The number of lobes of the filter on each side. -/
def lobes : Float32 := 3

/-- The ratio of a circle's circumference to its diameter. -/
def pi : Float32 := 3.14159265358979

/-- The sine of a number of half turns, divided by their angle. -/
def sinc (turns : Float32) : Float32 :=
  let angle := turns * pi
  if turns == 0 then 1 else angle.sin / angle

/-- The weight of a sample at a distance. -/
def kernel (distance : Float32) : Float32 :=
  if distance.abs < lobes then sinc distance * sinc (distance / lobes) else 0

/-- Weights of samples of the source, from the sample `start` on. -/
structure Window where
  start : Nat
  weights : Array Float32

/-- A whole number of single precision between two bounds. -/
def clampTo (low high : Int) (value : Float32) : Nat := (max low (min value.toInt64.toInt high)).toNat

/-- The weights for the sample at `place` of `target` samples, taken from `source` samples. Where the
result is smaller than the source the filter is as much wider. -/
def window (source target place : Nat) : Window :=
  let ratio := Float32.ofNat source / Float32.ofNat target
  let scale := if ratio < 1 then 1 else ratio
  let support := lobes * scale
  let centre := (Float32.ofNat place + 0.5) * ratio
  let left := clampTo 0 (source - 1) (centre - support).floor
  let right := clampTo (left + 1) source (centre + support).ceil
  let centre := centre - 0.5
  let weights := ((List.range (right - left)).map fun step =>
    kernel ((Float32.ofNat (left + step) - centre) / scale)).toArray
  let total := weights.foldl (· + ·) 0
  ⟨left, weights.map (· / total)⟩

/-- The weighted sum of samples in a window. -/
def Window.blend (window : Window) (sample : Nat → Float32) : Float32 :=
  (window.weights.foldl (fun (total, place) weight => (total + sample place * weight, place + 1))
    ((0 : Float32), window.start)).1

/-- The windows of all samples of the result. -/
def windows (source target : Nat) : Array Window :=
  Array.ofFn fun place : Fin target => window source target place.val

/-- The byte nearest to a number; halves go away from zero. -/
def nearestByte (value : Float32) : UInt8 :=
  let clamped := if value < 0 then 0 else if 255 < value then 255 else value
  clamped.round.toUInt8

/-- The image with its columns resampled; its values are not rounded. -/
def resampleColumns (image : RgbImage) (height : Nat) : Array Float32 :=
  let windows := windows image.height height
  let size := image.width * 3
  Array.ofFn fun place : Fin (height * size) =>
    let column := place.val % size
    (windows.getD (place.val / size) ⟨0, #[]⟩).blend fun row =>
      Float32.ofNat (image.valueAt (column / 3) row (column % 3)).toNat

/-- The image of another size. An image of that size already is left as it is, and one without pixels
becomes black. -/
def resized (image : RgbImage) (width height : Nat) : RgbImage :=
  if image.width = width ∧ image.height = height then image
  else if image.isEmpty then RgbImage.ofFn width height fun _ _ _ => 0
  else
    let columns := resampleColumns image height
    let windows := windows image.width width
    RgbImage.ofFn width height fun column row channel =>
      nearestByte ((windows.getD column ⟨0, #[]⟩).blend fun source =>
        columns.getD ((row * image.width + source) * 3 + channel) 0)

end Resample
end Holdout
