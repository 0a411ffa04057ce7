import Holdout.Archive.Member

/-!
# Text as bytes

UTF-8 text as a list of bytes: it can be read back, joined texts have joined bytes, and a
byte below 128 comes from no character but its own.
-/

namespace Holdout
namespace Text

/-- Taking the bytes of an array one by one ends with all that are left. -/
theorem toList_loop_eq (array : ByteArray) (place : Nat) (taken : List UInt8) :
    ByteArray.toList.loop array place taken =
      taken.reverse ++ array.data.toList.drop place := by
  fun_induction ByteArray.toList.loop array place taken with
  | case1 place taken inside inductionHypothesis =>
    have bounded : place < array.data.toList.length := by simpa using inside
    have byte : array.get! place = array.data.toList[place] := by
      simp [ByteArray.get!, inside]
    rw [inductionHypothesis, List.drop_eq_getElem_cons bounded, byte, List.reverse_cons,
      List.append_assoc, List.singleton_append]
  | case2 place taken outside =>
    have ended : array.data.toList.length ≤ place := by simpa using outside
    rw [List.drop_eq_nil_of_le ended, List.append_nil]

theorem toList_eq_data_toList (array : ByteArray) : array.toList = array.data.toList := by
  rw [ByteArray.toList, toList_loop_eq]
  rfl

/-- The bytes of a text. -/
def bytes (text : String) : List UInt8 := text.toUTF8.toList

theorem bytes_eq_flatMap (text : String) :
    bytes text = text.toList.flatMap String.utf8EncodeChar := by
  rw [bytes, toList_eq_data_toList, String.toUTF8_eq_toByteArray, ← String.utf8Encode_toList,
    List.utf8Encode, List.data_toByteArray]

@[simp] theorem bytes_empty : bytes "" = [] := by
  rw [bytes_eq_flatMap]
  rfl

@[simp] theorem bytes_append (first second : String) :
    bytes (first ++ second) = bytes first ++ bytes second := by
  rw [bytes_eq_flatMap, bytes_eq_flatMap, bytes_eq_flatMap, String.toList_append,
    List.flatMap_append]

/-- The bytes of a text can be read back. -/
@[simp] theorem text?_bytes (text : String) : Archive.text? (bytes text) = some text := by
  have array : (⟨(bytes text).toArray⟩ : ByteArray) = text.toByteArray := by
    rw [bytes, toList_eq_data_toList, Array.toArray_toList]
    rfl
  rw [Archive.text?, array, String.fromUTF8?, dif_pos text.isValidUTF8]
  rfl

/-- Bytes are a text just if they are the bytes of that text. -/
theorem text?_eq_some_iff {list : List UInt8} {text : String} :
    Archive.text? list = some text ↔ list = bytes text := by
  constructor
  · intro read
    rw [Archive.text?, String.fromUTF8?] at read
    split at read
    · rename_i valid
      rw [← Option.some.inj read, bytes, toList_eq_data_toList]
      exact List.toList_toArray.symm
    · cases read
  · rintro same
    rw [same, text?_bytes]

/-- An array of bytes is a text just if it is the UTF-8 form of that text. -/
theorem fromUTF8?_eq_some_iff {array : ByteArray} {text : String} :
    String.fromUTF8? array = some text ↔ array = text.toUTF8 := by
  constructor
  · intro read
    rw [String.fromUTF8?] at read
    split at read
    · rw [← Option.some.inj read]
      rfl
    · cases read
  · intro same
    rw [same, String.toUTF8_eq_toByteArray, String.fromUTF8?, dif_pos text.isValidUTF8]
    rfl

theorem bytes_injective {first second : String} (same : bytes first = bytes second) :
    first = second := by
  have read : Archive.text? (bytes first) = Archive.text? (bytes second) := by rw [same]
  rw [text?_bytes, text?_bytes] at read
  exact Option.some.inj read

/-- Different texts have different bytes. -/
theorem bytes_ne {first second : String} (different : first ≠ second) :
    bytes first ≠ second.toList.flatMap String.utf8EncodeChar := by
  rw [← bytes_eq_flatMap]
  intro same
  exact different (bytes_injective same)

/-- A byte of a character is its number, or lies above all the numbers that are a byte of
their own. -/
theorem mem_utf8EncodeChar
    {c : Char}
    {byte : UInt8}
    (member : byte ∈ String.utf8EncodeChar c) :
    byte.toNat = c.toNat ∨ 128 ≤ byte.toNat := by
  rw [String.utf8EncodeChar] at member
  by_cases one : c.val.toNat ≤ 0x7f
  · rw [if_pos one, List.mem_singleton] at member
    left
    rw [member, UInt8.toNat_ofNat', Char.toNat]
    omega
  · right
    rw [if_neg one] at member
    -- Every byte of a longer form is a remainder shifted up by 128 or more.
    split at member
    · simp only [List.mem_cons, List.not_mem_nil, or_false] at member
      rcases member with same | same <;> (rw [same, UInt8.toNat_ofNat']; omega)
    · split at member
      · simp only [List.mem_cons, List.not_mem_nil, or_false] at member
        rcases member with same | same | same <;> (rw [same, UInt8.toNat_ofNat']; omega)
      · simp only [List.mem_cons, List.not_mem_nil, or_false] at member
        rcases member with same | same | same | same <;>
          (rw [same, UInt8.toNat_ofNat']; omega)

/-- A character below 128 is a byte of its own. -/
theorem utf8EncodeChar_of_lt {c : Char} (small : c.toNat < 128) :
    String.utf8EncodeChar c = [UInt8.ofNat c.toNat] := by
  have one : c.val.toNat ≤ 0x7f := Nat.le_of_lt_succ small
  rw [String.utf8EncodeChar, if_pos one]
  rfl

/-- A text without a character below 128 has no byte for it. -/
theorem not_mem_bytes
    {text : String}
    {c : Char}
    (small : c.toNat < 128)
    (absent : c ∉ text.toList) :
    UInt8.ofNat c.toNat ∉ bytes text := by
  intro member
  rw [bytes_eq_flatMap] at member
  obtain ⟨other, among, encoded⟩ := List.mem_flatMap.mp member
  have number : (UInt8.ofNat c.toNat).toNat = c.toNat := by
    rw [UInt8.toNat_ofNat']
    omega
  have same : c.toNat = other.toNat := by
    have cases := mem_utf8EncodeChar encoded
    omega
  have equal : c = other := Char.ext (UInt32.toNat_inj.mp same)
  rw [equal] at absent
  exact absent among

/-- Only a dot is encoded with the byte of a dot. -/
theorem takeWhile_encoded (characters : List Char) :
    (characters.flatMap String.utf8EncodeChar).takeWhile (· ≠ FilePath.dot) =
      (characters.takeWhile (· ≠ '.')).flatMap String.utf8EncodeChar := by
  induction characters with
  | nil => rfl
  | cons c rest inductionHypothesis =>
    by_cases isDot : c = '.'
    · rw [isDot]
      rfl
    · have others : ∀ byte ∈ String.utf8EncodeChar c, decide (byte ≠ FilePath.dot) = true := by
        intro byte member
        rw [decide_eq_true_eq]
        intro same
        have number : FilePath.dot.toNat = '.'.toNat := rfl
        have small : '.'.toNat < 128 := by decide
        have cases := mem_utf8EncodeChar member
        rw [same, number] at cases
        have equal : '.'.toNat = c.toNat := by omega
        exact isDot (Char.ext (UInt32.toNat_inj.mp equal.symm))
      rw [List.flatMap_cons, List.takeWhile_append_of_pos others, inductionHypothesis,
        List.takeWhile_cons_of_pos (by simpa using isDot), List.flatMap_cons]

/-- The bytes up to the first dot are those of the characters up to the first dot. -/
theorem bytes_takeWhile (text : String) :
    bytes (String.ofList (text.toList.takeWhile (· ≠ '.'))) =
      (bytes text).takeWhile (· ≠ FilePath.dot) := by
  rw [bytes_eq_flatMap, bytes_eq_flatMap, takeWhile_encoded, String.toList_ofList]

end Text
end Holdout
