import Holdout.Archive.Entry
import Holdout.Proofs.Text.Bytes

/-!
# Headers in a body

The bytes of a body from a place on, as a list, and the header that is found there.
-/

namespace Holdout
namespace Archive

/-- The bytes of a slice, as a list. -/
theorem toList_slice (body : Body) (place size : Nat) :
    (slice body place size).toList = (body.bytes.data.toList.drop place).take size := by
  rw [Text.toList_eq_data_toList, slice, ByteArray.data_extract, Array.toList_extract,
    List.extract]
  by_cases inside : place + size ≤ body.bytes.size
  · rw [Nat.min_eq_left inside, Nat.add_sub_cancel_left]
  · have bytes : (body.bytes.data.toList.drop place).length = body.bytes.size - place := by
      rw [List.length_drop]
      rfl
    rw [Nat.min_eq_right (Nat.le_of_not_le inside), List.take_of_length_le (by omega),
      List.take_of_length_le (by omega)]

theorem size_slice (body : Body) (place size : Nat) :
    (slice body place size).size = min size (body.bytes.size - place) := by
  have length : (slice body place size).size = (slice body place size).toList.length := by
    rw [Text.toList_eq_data_toList]
    rfl
  rw [length, toList_slice, List.length_take, List.length_drop]
  rfl

/-- A whole block that is not blank and states its sum is a header. -/
theorem headerAt_of_block
    {body : Body}
    {place : Nat}
    {header : Header}
    (block : (body.bytes.data.toList.drop place).take blockSize = header.bytes)
    (whole : header.bytes.length = blockSize)
    (notBlank : header.isBlank = false)
    (stated : header.statedSum? = some (header.actualSum % Word.halfLimit)) :
    headerAt body place = .header header := by
  have size : (slice body place blockSize).size = blockSize := by
    have length := congrArg List.length block
    rw [List.length_take, List.length_drop, whole] at length
    rw [size_slice]
    exact length
  have inside : ¬body.bytes.size < place := by
    rw [size_slice] at size
    have positive : 0 < blockSize := by decide
    omega
  have bytes : (⟨(slice body place blockSize).toList⟩ : Header) = header := by
    rw [toList_slice, block]
  simp only [headerAt, if_neg inside, size, bytes, notBlank, stated]
  rfl

/-- Where a body ends without breaking, nothing else is found. -/
theorem headerAt_size {body : Body} (ends : body.breaks = false) :
    headerAt body body.bytes.size = .finished := by
  have size : (slice body body.bytes.size blockSize).size = 0 := by
    rw [size_slice, Nat.sub_self, Nat.min_zero]
  simp only [headerAt, Nat.lt_irrefl, if_false, size, if_true, ends, Bool.false_eq_true]

/-- A header and the data behind it. -/
structure Stored where
  header : Header
  data : List UInt8

/-- The blocks that the data takes. -/
def paddedSize (size : Nat) : Nat := (size + blockSize - 1) / blockSize * blockSize

/-- The data with zeros behind it, up to the end of its last block. -/
def Stored.padded (stored : Stored) : List UInt8 :=
  stored.data ++ List.replicate (paddedSize stored.data.length - stored.data.length) 0

def Stored.bytes (stored : Stored) : List UInt8 := stored.header.bytes ++ stored.padded

/-- A header block that states its sum and the size of its data, for an entry that describes no other
and is not sparse. -/
structure Stored.IsPlain (stored : Stored) : Prop where
  whole : stored.header.bytes.length = blockSize
  notBlank : stored.header.isBlank = false
  stated : stored.header.statedSum? = some (stored.header.actualSum % Word.halfLimit)
  letter : stored.header.typeByte ∉ ([0x4C, 0x4B, 0x78, 0x53] : List UInt8)
  size : stored.header.size? = some stored.data.length

instance (stored : Stored) : Decidable stored.IsPlain :=
  decidable_of_iff
    (stored.header.bytes.length = blockSize ∧ stored.header.isBlank = false ∧
      stored.header.statedSum? = some (stored.header.actualSum % Word.halfLimit) ∧
      stored.header.typeByte ∉ ([0x4C, 0x4B, 0x78, 0x53] : List UInt8) ∧
      stored.header.size? = some stored.data.length)
    ⟨fun ⟨whole, notBlank, stated, letter, size⟩ => ⟨whole, notBlank, stated, letter, size⟩,
    fun plain => ⟨plain.whole, plain.notBlank, plain.stated, plain.letter, plain.size⟩⟩

/-- The entry of a plain header with its data. -/
def Stored.entry (stored : Stored) : Entry :=
  if stored.header.isFile then .file stored.header.path ⟨stored.data.toArray⟩ else .other

/-- The body that consists of headers with their data. -/
def ofStored (all : List Stored) : Body := .ofBytes ⟨(all.flatMap Stored.bytes).toArray⟩

theorem le_paddedSize (size : Nat) : size ≤ paddedSize size := by
  rw [paddedSize, blockSize]
  omega

theorem Stored.length_padded (stored : Stored) :
    stored.padded.length = paddedSize stored.data.length := by
  have enough := le_paddedSize stored.data.length
  rw [padded, List.length_append, List.length_replicate]
  omega

theorem Stored.IsPlain.length_bytes {stored : Stored} (plain : stored.IsPlain) :
    stored.bytes.length = blockSize + paddedSize stored.data.length := by
  rw [bytes, List.length_append, plain.whole, stored.length_padded]

theorem slice_eq_of_toList {body : Body} {place size : Nat} {data : List UInt8}
    (same : (body.bytes.data.toList.drop place).take size = data) :
    slice body place size = ⟨data.toArray⟩ := by
  rw [← toList_slice, Text.toList_eq_data_toList] at same
  rw [← same, Array.toArray_toList]

/-- A plain header makes its entry, and the next header lies right behind its data. -/
theorem entriesFrom_of_plain
    {body : Body}
    {place : Nat}
    {stored : Stored}
    (plain : stored.IsPlain)
    (found : headerAt body place = .header stored.header)
    (data : slice body (place + blockSize) stored.data.length = ⟨stored.data.toArray⟩)
    (inside : place + stored.bytes.length < Word.limit)
    (fuel : Nat) :
    entriesFrom body (fuel + 1) place .nothing =
      stored.entry :: entriesFrom body fuel (place + stored.bytes.length) .nothing := by
  have next : place + stored.bytes.length = place + blockSize + paddedSize stored.data.length := by
    rw [plain.length_bytes, Nat.add_assoc]
  have extent : extent? stored.header .nothing (place + blockSize) =
      some (stored.data.length, place + stored.bytes.length) := by
    have size : (if stored.header.hasDescribingLetter then stored.data.length
        else (Described.nothing.extended.bind extendedSize?).getD stored.data.length) =
          stored.data.length := by
      split <;> rfl
    have small : stored.data.length + blockSize - 1 < Word.limit := by
      have enough := le_paddedSize stored.data.length
      omega
    rw [next] at inside ⊢
    simp only [extent?, plain.size, Option.bind_eq_bind, Option.bind_some, size]
    exact if_pos ⟨small, inside⟩
  have whole : dataAt? body (place + blockSize) stored.data.length =
      some ⟨stored.data.toArray⟩ := by
    have size : (⟨stored.data.toArray⟩ : ByteArray).size = stored.data.length := rfl
    simp only [dataAt?, data, size, Nat.lt_irrefl, false_and, if_false]
  have letter := plain.letter
  simp only [List.mem_cons, List.not_mem_nil, or_false, not_or] at letter
  obtain ⟨noName, noLink, noFields, notSparse⟩ := letter
  have delivers : deliver body stored.header .nothing (place + blockSize) stored.data.length =
      some (stored.entry, 0) := by
    rw [deliver, if_neg notSparse, Stored.entry]
    split
    · simp only [whole]
      rfl
    · rfl
  rw [entriesFrom, found]
  simp only [extent, noName, noLink, noFields, and_false, if_false, delivers, Nat.zero_mul,
    Nat.add_zero]

/-- The entry of a file whose header has been found; the next header lies behind its data, if there
is so much of it. -/
theorem entriesFrom_of_file
    {body : Body}
    {place size next : Nat}
    {header : Header}
    (found : headerAt body place = .header header)
    (isFile : header.isFile = true)
    (extent : extent? header .nothing (place + blockSize) = some (size, next))
    (fuel : Nat) :
    entriesFrom body (fuel + 1) place .nothing =
      ((dataAt? body (place + blockSize) size).elim (.brokenFile header.path)
        (.file header.path)) :: entriesFrom body fuel next .nothing := by
  have letter : header.typeByte = 0 ∨ header.typeByte = 0x30 := by
    rw [Header.isFile, Bool.or_eq_true, beq_iff_eq, beq_iff_eq] at isFile
    exact isFile
  have noLetter {other : UInt8} (notZero : 0 ≠ other) (notDigit : 0x30 ≠ other) :
      header.typeByte ≠ other := by
    rcases letter with same | same
    · exact same ▸ notZero
    · exact same ▸ notDigit
  have noName : header.typeByte ≠ 0x4C := noLetter (by decide) (by decide)
  have noLink : header.typeByte ≠ 0x4B := noLetter (by decide) (by decide)
  have noFields : header.typeByte ≠ 0x78 := noLetter (by decide) (by decide)
  have notSparse : header.typeByte ≠ 0x53 := noLetter (by decide) (by decide)
  have path : Described.nothing.path header = header.path := rfl
  rw [entriesFrom, found]
  simp only [extent, noName, noLink, noFields, and_false, if_false, deliver, notSparse, isFile,
    if_true, path]
  cases dataAt? body (place + blockSize) size with
  | none => simp
  | some data => simp

/-- Behind the first headers and their data, the entries of the others are found. -/
theorem entriesFrom_ofStored
    {done rest : List Stored}
    (plain : ∀ stored ∈ done ++ rest, stored.IsPlain)
    (inside : ((done ++ rest).flatMap Stored.bytes).length < Word.limit)
    {fuel : Nat}
    (enough : rest.length < fuel) :
    entriesFrom (ofStored (done ++ rest)) fuel (done.flatMap Stored.bytes).length .nothing =
      rest.map Stored.entry := by
  obtain ⟨fuel, rfl⟩ := Nat.exists_eq_add_one_of_ne_zero (Nat.ne_zero_of_lt enough)
  induction rest generalizing done fuel with
  | nil =>
    have size : (done.flatMap Stored.bytes).length = (ofStored (done ++ [])).bytes.size := by
      rw [List.append_nil]
      rfl
    rw [entriesFrom, size, headerAt_size rfl]
    rfl
  | cons stored others inductionHypothesis =>
    have first : stored.IsPlain :=
      plain stored (List.mem_append_right _ List.mem_cons_self)
    have regrouped : done ++ stored :: others = (done ++ [stored]) ++ others := by
      rw [List.append_assoc, List.singleton_append]
    have behind : ((done ++ [stored]).flatMap Stored.bytes).length =
        (done.flatMap Stored.bytes).length + stored.bytes.length := by
      rw [List.flatMap_append, List.length_append, List.flatMap_singleton]
    have fits : (done.flatMap Stored.bytes).length + stored.bytes.length < Word.limit := by
      rw [regrouped, List.flatMap_append, List.length_append, behind] at inside
      omega
    have fromHere : (ofStored (done ++ stored :: others)).bytes.data.toList.drop
        (done.flatMap Stored.bytes).length =
          stored.header.bytes ++ (stored.data ++
            (List.replicate (paddedSize stored.data.length - stored.data.length) 0 ++
              others.flatMap Stored.bytes)) := by
      rw [ofStored, Body.ofBytes, List.flatMap_append, List.drop_left, List.flatMap_cons,
        Stored.bytes, Stored.padded, List.append_assoc, List.append_assoc]
    have block : ((ofStored (done ++ stored :: others)).bytes.data.toList.drop
        (done.flatMap Stored.bytes).length).take blockSize = stored.header.bytes := by
      rw [fromHere, ← first.whole, List.take_left]
    have data : ((ofStored (done ++ stored :: others)).bytes.data.toList.drop
        ((done.flatMap Stored.bytes).length + blockSize)).take stored.data.length = stored.data := by
      rw [← List.drop_drop, fromHere, ← first.whole, List.drop_left, List.take_left]
    obtain ⟨fuel, rfl⟩ := Nat.exists_eq_add_one_of_ne_zero
      (Nat.ne_zero_of_lt (Nat.lt_of_succ_lt_succ enough))
    rw [entriesFrom_of_plain first
      (headerAt_of_block block first.whole first.notBlank first.stated)
      (slice_eq_of_toList data) fits, ← behind, regrouped, List.map_cons]
    exact congrArg (stored.entry :: ·)
      (inductionHypothesis (regrouped ▸ plain) (regrouped ▸ inside) fuel (Nat.lt_of_succ_lt_succ enough))

theorem length_mul_le_length_flatMap_bytes
    {all : List Stored}
    (plain : ∀ stored ∈ all, stored.IsPlain) :
    all.length * blockSize ≤ (all.flatMap Stored.bytes).length := by
  induction all with
  | nil => exact Nat.zero_le _
  | cons stored others inductionHypothesis =>
    rw [List.forall_mem_cons] at plain
    have rest := inductionHypothesis plain.2
    rw [List.flatMap_cons, List.length_append, plain.1.length_bytes, List.length_cons, Nat.add_mul]
    omega

/-- A body of plain headers with their data has their entries. -/
theorem entries_ofStored
    {all : List Stored}
    (plain : ∀ stored ∈ all, stored.IsPlain)
    (inside : (all.flatMap Stored.bytes).length < Word.limit) :
    entries (ofStored all) = all.map Stored.entry := by
  have blocks : all.length ≤ (ofStored all).bytes.size / blockSize :=
    (Nat.le_div_iff_mul_le (by decide)).mpr (length_mul_le_length_flatMap_bytes plain)
  exact @entriesFrom_ofStored [] all plain inside _ (Nat.lt_add_one_of_le blocks)

end Archive
end Holdout
