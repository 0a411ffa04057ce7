import Holdout.Image.Normalize

/-!
# Planes of colours

The values of a picture stand one colour behind the other, in a colour one row behind the other, and in a
row from left to right. Every row has as many values as every other, and every colour as many as every
other, so the place of a value is told by its colour, its row and its column.
-/

namespace Holdout

/-- Blocks of one size stand one behind the other. -/
theorem getElem?_flatMap
    {block : α → List β}
    {size : Nat}
    (sized : ∀ value, (block value).length = size)
    {values : List α}
    {place offset : Nat}
    (within : offset < size) :
    (values.flatMap block)[place * size + offset]? =
      values[place]?.bind fun value => (block value)[offset]? := by
  induction values generalizing place with
  | nil => rfl
  | cons value values inductionHypothesis =>
    rw [List.flatMap_cons]
    cases place with
    | zero =>
      rw [Nat.zero_mul, Nat.zero_add, List.getElem?_append_left (by rw [sized]; exact within)]
      rfl
    | succ place =>
      have behind : (place + 1) * size + offset = (block value).length + (place * size + offset) := by
        rw [sized, Nat.succ_mul]
        omega
      rw [behind, List.getElem?_append_right (Nat.le_add_right _ _), Nat.add_sub_cancel_left,
        inductionHypothesis, List.getElem?_cons_succ]

namespace RgbImage

/-! ## Bytes of images -/

/-- There are three bytes for each pixel. -/
def IsFull (image : RgbImage) : Prop := image.bytes.size = image.height * image.width * 3

theorem getElem?_toList_data (bytes : ByteArray) (place : Nat) :
    bytes.data.toList[place]? = bytes[place]? := by
  by_cases inside : place < bytes.size
  · rw [getElem?_pos bytes _ inside, Array.getElem?_toList, getElem?_pos bytes.data _ inside]
    rfl
  · rw [getElem?_neg bytes _ inside, Array.getElem?_toList, getElem?_neg bytes.data _ inside]

/-- The value of a colour of a pixel is one of the bytes. -/
theorem IsFull.byte_eq
    {image : RgbImage}
    (full : image.IsFull)
    {column row channel : Nat}
    (inColumns : column < image.width)
    (inRows : row < image.height)
    (inColours : channel < 3) :
    image.bytes[(row * image.width + column) * 3 + channel]? =
      some (image.valueAt column row channel) := by
  have below : (row + 1) * image.width ≤ image.height * image.width :=
    Nat.mul_le_mul_right _ inRows
  rw [Nat.succ_mul] at below
  have inside : (row * image.width + column) * 3 + channel < image.bytes.size := by
    rw [full]
    omega
  rw [valueAt, getElem?_pos image.bytes _ inside, Option.getD_some]

/-- Bytes that are put behind others one after the other stand there. -/
theorem data_foldl_push (byte : Nat → UInt8) (places : List Nat) (bytes : ByteArray) :
    (places.foldl (fun bytes place => bytes.push (byte place)) bytes).data.toList =
      bytes.data.toList ++ places.map byte := by
  induction places generalizing bytes with
  | nil => rw [List.foldl_nil, List.map_nil, List.append_nil]
  | cons place places inductionHypothesis =>
    rw [List.foldl_cons, inductionHypothesis, ByteArray.data_push, Array.toList_push, List.map_cons,
      List.append_assoc, List.singleton_append]

theorem toList_bytes_ofFn (width height : Nat) (value : Nat → Nat → Nat → UInt8) :
    (ofFn width height value).bytes.data.toList =
      (List.range (height * width * 3)).map fun place =>
        value (place / 3 % width) (place / 3 / width) (place % 3) := by
  rw [ofFn, data_foldl_push]
  rfl

theorem isFull_ofFn (width height : Nat) (value : Nat → Nat → Nat → UInt8) :
    (ofFn width height value).IsFull := by
  have length := congrArg List.length (toList_bytes_ofFn width height value)
  rw [Array.length_toList, List.length_map, List.length_range] at length
  exact length

/-- An image that is given by its values has them. -/
theorem valueAt_ofFn
    {width height : Nat}
    (value : Nat → Nat → Nat → UInt8)
    {column row channel : Nat}
    (inColumns : column < width)
    (inRows : row < height)
    (inColours : channel < 3) :
    (ofFn width height value).valueAt column row channel = value column row channel := by
  have byte := (isFull_ofFn width height value).byte_eq inColumns inRows inColours
  have width_ofFn : (ofFn width height value).width = width := rfl
  have pixel : ((row * width + column) * 3 + channel) / 3 = row * width + column := by omega
  have colour : ((row * width + column) * 3 + channel) % 3 = channel := by omega
  have isColumn : (row * width + column) % width = column := by
    rw [Nat.mul_add_mod_self_right, Nat.mod_eq_of_lt inColumns]
  have isRow : (row * width + column) / width = row := by
    rw [Nat.add_comm, Nat.add_mul_div_right _ _ (Nat.zero_lt_of_lt inColumns),
      Nat.div_eq_of_lt inColumns, Nat.zero_add]
  obtain ⟨inside, -⟩ := List.getElem?_eq_some_iff.mp ((getElem?_toList_data _ _).trans byte)
  rw [width_ofFn, ← getElem?_toList_data, toList_bytes_ofFn, List.getElem?_map] at byte
  rw [width_ofFn, toList_bytes_ofFn, List.length_map, List.length_range] at inside
  rw [List.getElem?_range inside, Option.map_some, pixel, colour, isColumn, isRow,
    Option.some.injEq] at byte
  exact byte.symm

theorem width_resized (image : RgbImage) (width height : Nat) :
    (Resample.resized image width height).width = width := by
  rw [Resample.resized]
  split
  · rename_i same
    exact same.1
  · split <;> rfl

theorem height_resized (image : RgbImage) (width height : Nat) :
    (Resample.resized image width height).height = height := by
  rw [Resample.resized]
  split
  · rename_i same
    exact same.2
  · split <;> rfl

theorem IsFull.resized {image : RgbImage} (full : image.IsFull) (width height : Nat) :
    (Resample.resized image width height).IsFull := by
  rw [Resample.resized]
  split
  · exact full
  · split
    · exact isFull_ofFn width height _
    · exact isFull_ofFn width height _

/-! ## Values of planes -/

/-- Steps that each put a block behind others put their blocks one behind the other. -/
theorem toList_foldl
    {step : Array Float32 → Nat → Array Float32}
    {block : Nat → List Float32}
    (adds : ∀ values place, (step values place).toList = values.toList ++ block place)
    (places : List Nat)
    (values : Array Float32) :
    (places.foldl step values).toList = values.toList ++ places.flatMap block := by
  induction places generalizing values with
  | nil => rw [List.flatMap_nil, List.append_nil, List.foldl_nil]
  | cons place places inductionHypothesis =>
    rw [List.foldl_cons, inductionHypothesis, adds, List.flatMap_cons, List.append_assoc]

/-- The values that a row has in a colour. -/
def rowValues (image : RgbImage) (channel row : Nat) : List Float32 :=
  (List.range side).map fun column => normalizedValue (image.valueAt column row channel)

theorem toList_pushRow (image : RgbImage) (channel : Nat) (values : Array Float32) (row : Nat) :
    (image.pushRow channel values row).toList = values.toList ++ image.rowValues channel row := by
  have adds (values : Array Float32) (column : Nat) :
      (values.push (normalizedValue (image.valueAt column row channel))).toList =
        values.toList ++ [normalizedValue (image.valueAt column row channel)] := Array.toList_push
  rw [pushRow, toList_foldl adds, rowValues, List.map_eq_flatMap]

theorem toList_pushPlane (image : RgbImage) (values : Array Float32) (channel : Nat) :
    (image.pushPlane values channel).toList =
      values.toList ++ (List.range side).flatMap (image.rowValues channel) := by
  rw [pushPlane, toList_foldl (image.toList_pushRow channel)]

theorem toList_planeValues (image : RgbImage) :
    image.planeValues.toList =
      (List.range 3).flatMap fun channel => (List.range side).flatMap (image.rowValues channel) := by
  rw [planeValues, toList_foldl image.toList_pushPlane, List.nil_append]

theorem length_rowValues (image : RgbImage) (channel row : Nat) :
    (image.rowValues channel row).length = side := by
  rw [rowValues, List.length_map, List.length_range]

theorem length_flatMap_rowValues (image : RgbImage) (channel : Nat) :
    ((List.range side).flatMap (image.rowValues channel)).length = side * side := by
  have pushed := congrArg List.length (image.toList_pushPlane #[] channel)
  rw [Array.length_toList, size_pushPlane, List.length_append, Array.length_toList] at pushed
  exact (Nat.add_left_cancel pushed).symm

/-- The place of a value is told by its colour, its row and its column. -/
theorem getElem?_planeValues
    (image : RgbImage)
    {channel row column : Nat}
    (inColours : channel < 3)
    (inRows : row < side)
    (inColumns : column < side) :
    image.planeValues[(channel * side + row) * side + column]? =
      some (normalizedValue (image.valueAt column row channel)) := by
  have place : (channel * side + row) * side + column =
      channel * (side * side) + (row * side + column) := by
    rw [Nat.add_mul, Nat.mul_assoc, Nat.add_assoc]
  have inPlane : row * side + column < side * side := by
    have below : (row + 1) * side ≤ side * side := Nat.mul_le_mul_right side inRows
    rw [Nat.succ_mul] at below
    omega
  rw [place, ← Array.getElem?_toList, toList_planeValues,
    getElem?_flatMap image.length_flatMap_rowValues inPlane, List.getElem?_range inColours,
    Option.bind_some, getElem?_flatMap (image.length_rowValues channel) inColumns,
    List.getElem?_range inRows, Option.bind_some, rowValues, List.getElem?_map,
    List.getElem?_range inColumns, Option.map_some]

/-- Every image of whatever size becomes a tensor of the one shape. The values fill the shape, and the one
for a colour, a row and a column is made of the byte that the resized image has for them, by the one
formula everywhere. An image that has the size already is not resized. -/
theorem normalized_lays_out_planes (image : RgbImage) :
    Tensor.ofElements? imageInputShape
        (.f32 (Resample.resized image 224 224).planeValues) = some image.normalized ∧
      image.normalized.shape = [1, 3, 224, 224] ∧
      (image.width = 224 → image.height = 224 → Resample.resized image 224 224 = image) ∧
      ∃ values,
        image.normalized.elements = .f32 values ∧
        ∀ channel row column, channel < 3 → row < 224 → column < 224 →
          values[(channel * 224 + row) * 224 + column]? =
            some ((Float32.ofNat
              ((Resample.resized image 224 224).valueAt column row channel).toNat / 255 - 0.45) /
                0.225) ∧
          (image.IsFull →
            (Resample.resized image 224 224).bytes[(row * 224 + column) * 3 + channel]? =
              some ((Resample.resized image 224 224).valueAt column row channel)) := by
  refine ⟨dif_pos (size_planeValues _), rfl, ?_, _, rfl, ?_⟩
  · intro width height
    exact if_pos ⟨width, height⟩
  · intro channel row column inColours inRows inColumns
    refine ⟨getElem?_planeValues _ inColours inRows inColumns, fun full => ?_⟩
    have byte := (full.resized 224 224).byte_eq (by rw [width_resized]; exact inColumns)
      (by rw [height_resized]; exact inRows) inColours
    rw [width_resized] at byte
    exact byte

/-- A picture of the size that a classifier sees, in which all rows, columns and colours differ. -/
def slope : RgbImage := ofFn 224 224 fun column row channel => .ofNat (column + 2 * row + 5 * channel)

/-- The value of the last colour in the second row and the fourth column stands in the last plane, behind
one row and three values. Its byte is 15, so it is far below the mean. -/
theorem normalized_slope :
    ∃ values,
      slope.normalized.elements = .f32 values ∧
      values[(2 * 224 + 1) * 224 + 3]? = some (-1.7385621 : Float32) ∧
      slope.bytes[(1 * 224 + 3) * 3 + 2]? = some 15 := by
  obtain ⟨-, -, unchanged, values, elements, lies⟩ := normalized_lays_out_planes slope
  obtain ⟨value, byte⟩ := lies 2 1 3 (by decide) (by decide) (by decide)
  have isValue : slope.valueAt 3 1 2 = 15 := valueAt_ofFn _ (by decide) (by decide) (by decide)
  have full : slope.IsFull := isFull_ofFn _ _ _
  have number : (Float32.ofNat (15 : UInt8).toNat / 255 - 0.45) / 0.225 = -1.7385621 := by decide
  rw [unchanged rfl rfl, isValue] at value byte
  rw [number] at value
  exact ⟨values, elements, value, byte full⟩

end RgbImage
end Holdout
