/-!
# Blocks of waves

A component of an image is cut into blocks of eight rows and columns. A block is known by its
waves: its mean, and waves of different widths in both directions. Its shades are put together
from them in fixed point arithmetic, on words of 32 bits.
-/

namespace Holdout
namespace Jpeg

/-- The place of each wave in its block, in the order in which waves are written. -/
def waveOrder : Array Nat :=
  #[0, 1, 8, 16, 9, 2, 3, 10, 17, 24, 32, 25, 18, 11, 4, 5, 12, 19, 26, 33, 40, 48, 41, 34, 27, 20,
    13, 6, 7, 14, 21, 28, 35, 42, 49, 56, 57, 50, 43, 36, 29, 22, 15, 23, 30, 37, 44, 51, 58, 59,
    52, 45, 38, 31, 39, 46, 53, 60, 61, 54, 47, 55, 62, 63]

/-- The place of a wave. Numbers behind the last wave begin anew with the first. -/
def wavePlace (index : Nat) : Nat := waveOrder.getD (index % 64) 0

/-- The number that a word of 32 bits holds for an integer. -/
def wrapped (value : Int) : Int := Int.bmod value 4294967296

/-- One pass of the transform over eight values. The results are scaled by `2 ^ 12`, with `rounding`
added. -/
def transformEight (rounding : Int) (value : Nat → Int) : List Int :=
  let middle := (value 2 + value 6) * 2217
  let even2 := middle + value 6 * -7567
  let even3 := middle + value 2 * 3135
  let even0 := (value 0 + value 4) * 4096
  let even1 := (value 0 - value 4) * 4096
  let first := even0 + even3 + rounding
  let fourth := even0 - even3 + rounding
  let second := even1 + even2 + rounding
  let third := even1 - even2 + rounding
  let sum73 := value 7 + value 3
  let sum51 := value 5 + value 1
  let common := (sum73 + sum51) * 4816
  let part1 := common + (value 7 + value 1) * -3685
  let part2 := common + (value 5 + value 3) * -10497
  let part3 := sum73 * -8034
  let part4 := sum51 * -1597
  let odd3 := value 1 * 6149 + part1 + part4
  let odd2 := value 3 * 12586 + part2 + part3
  let odd1 := value 5 * 8410 + part2 + part4
  let odd0 := value 7 * 1223 + part1 + part3
  [first + odd3, second + odd2, third + odd1, fourth + odd0, fourth - odd0, third - odd1,
    second - odd2, first - odd3].map wrapped

/-- The byte nearest to a whole number. -/
def clampByte (value : Int) : UInt8 := UInt8.ofNat (max 0 (min value 255)).toNat

/-- The shades of a block that has no waves but its mean. -/
def flatShades (mean : Int) : Array UInt8 := Array.replicate 64 (clampByte ((mean + 4) / 8 + 128))

/-- The shades of a block by its waves, both row by row. -/
def mixedShades (waves : Array Int) : Array UInt8 :=
  let columns := (List.range 8).map fun column =>
    ((transformEight 512 fun row => waves.getD (8 * row + column) 0).map (· / 1024)).toArray
  ((List.range 8).flatMap fun row =>
    (transformEight (512 + 65536 + 128 * 131072) fun column =>
      (columns.getD column #[]).getD row 0).map fun value => clampByte (value / 131072)).toArray

/-- The shades of a block by its waves. -/
def shades (waves : Array Int) : Array UInt8 :=
  if (waves.toList.drop 1).all (· == 0) then flatShades (waves.getD 0 0) else mixedShades waves

/-- The block that has no waves. -/
def noWaves : Array Int := Array.replicate 64 0

/-- Waves as multiples of their steps. -/
def scaledWaves (steps : Array Nat) (waves : Array Int) : Array Int :=
  waves.mapIdx fun place value => wrapped (value * (steps.getD place 0 : Int))

end Jpeg
end Holdout
