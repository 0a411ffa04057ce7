import Holdout.Binding
import Holdout.Image.Resample

/-!
# Images as tensors

The input of a classifier: an image of 224 rows and columns, one plane for each colour, with
values moved and scaled to about a unit around zero.
-/

namespace Holdout
namespace RgbImage

/-- The number of rows and columns that a classifier sees. -/
def side : Nat := 224

/-- The mean of colour values between zero and one. -/
def mean : Float32 := 0.45

/-- The standard deviation of colour values between zero and one. -/
def deviation : Float32 := 0.225

/-- A colour value around zero. -/
def normalizedValue (value : UInt8) : Float32 :=
  (Float32.ofNat value.toNat / 255 - mean) / deviation

/-- Put the values that a row has in a colour behind others, from left to right. -/
def pushRow (image : RgbImage) (channel : Nat) (values : Array Float32) (row : Nat) :
    Array Float32 :=
  (List.range side).foldl (fun values column =>
    values.push (normalizedValue (image.valueAt column row channel))) values

/-- Put the values that all rows have in a colour behind others, from top to bottom. -/
def pushPlane (image : RgbImage) (values : Array Float32) (channel : Nat) : Array Float32 :=
  (List.range side).foldl (image.pushRow channel) values

/-- The values of an image that has the size a classifier sees, one colour after the other. -/
def planeValues (image : RgbImage) : Array Float32 := (List.range 3).foldl image.pushPlane #[]

/-- Steps that each add so many values add that many times their number. -/
theorem size_foldl
    {step : Array Float32 → Nat → Array Float32}
    {size : Nat}
    (adds : ∀ values place, (step values place).size = values.size + size)
    (places : List Nat)
    (values : Array Float32) :
    (places.foldl step values).size = values.size + places.length * size := by
  induction places generalizing values with
  | nil => simp
  | cons place places inductionHypothesis =>
    rw [List.foldl_cons, inductionHypothesis, adds, List.length_cons, Nat.succ_mul, Nat.add_assoc,
      Nat.add_comm size]

theorem size_pushRow (image : RgbImage) (channel : Nat) (values : Array Float32) (row : Nat) :
    (image.pushRow channel values row).size = values.size + side := by
  rw [pushRow, size_foldl (fun _ _ => Array.size_push _), List.length_range, Nat.mul_one]

theorem size_pushPlane (image : RgbImage) (values : Array Float32) (channel : Nat) :
    (image.pushPlane values channel).size = values.size + side * side := by
  rw [pushPlane, size_foldl (image.size_pushRow channel), List.length_range]

theorem size_planeValues (image : RgbImage) :
    image.planeValues.size = volume imageInputShape := by
  rw [planeValues, size_foldl image.size_pushPlane]
  rfl

/-- The tensor of an image that has the size a classifier sees. -/
def planes (image : RgbImage) : Tensor :=
  ⟨imageInputShape, .f32 image.planeValues, image.size_planeValues⟩

/-- The tensor of an image of any size. -/
def normalized (image : RgbImage) : Tensor := (Resample.resized image side side).planes

@[simp] theorem shape_planes (image : RgbImage) : image.planes.shape = imageInputShape := rfl

@[simp] theorem shape_normalized (image : RgbImage) :
    image.normalized.shape = imageInputShape := rfl

end RgbImage
end Holdout
