import Holdout.Proofs.Url.Escapes
import Holdout.Proofs.Url.Standard

/-!
# Kept segments

A segment that the path state has made is kept as it is when it is read again: nothing in it needs an
escape, it holds no slash and is no dot segment.
-/

namespace Holdout
namespace Url
namespace Standard

section Written

variable {escapes : UInt8 → Bool} {segment : List Char} {c : Char}

/-- A character that a path keeps as it is. -/
def IsPlain (escapes : UInt8 → Bool) (c : Char) : Prop :=
  c.toNat < 128 ∧ escapes (UInt8.ofNat c.toNat) = false

/-- What is written for a byte. -/
def writtenByte (escapes : UInt8 → Bool) (byte : UInt8) : List Char :=
  if escapes byte then (escapeOf byte).toList else [Char.ofNat byte.toNat]

theorem toList_percentEncode (escapes : UInt8 → Bool) (bytes : List UInt8) :
    (percentEncode escapes bytes).toList = bytes.flatMap (writtenByte escapes) := by
  rw [percentEncode, String.toList_join, List.flatMap_map]
  refine List.flatMap_congr fun byte _ => ?_
  rw [writtenByte]
  split
  · rfl
  · rw [Char.toString, String.toList_singleton]

theorem IsPathSet.toNat_lt (pathSet : IsPathSet escapes) {byte : UInt8}
    (unescaped : escapes byte = false) : byte.toNat < 128 := by
  by_contra large
  have control : isControlByte byte = true := by
    rw [isControlByte, Bool.or_eq_true, decide_eq_true_iff, decide_eq_true_iff]
    exact .inr (UInt8.lt_iff_toNat_lt.mpr (by change 0x7E < byte.toNat; omega))
  rw [pathSet.controls byte control] at unescaped
  cases unescaped

theorem IsPathSet.isPlain_of_isAlphanum (pathSet : IsPathSet escapes)
    (alphanumeric : c.isAlphanum = true) (small : c.toNat < 128) : IsPlain escapes c := by
  have bounded : c.toNat < 2 ^ 8 := by omega
  have number : (UInt8.ofNat c.toNat).toNat = c.toNat := UInt8.toNat_ofNat_of_lt' bounded
  refine ⟨small, pathSet.alphanumeric _ ?_⟩
  rwa [number, Char.ofNat_toNat]

/-- A character that is written is one of an escape, or stands for a byte of the segment. -/
theorem mem_percentEncode (member : c ∈ (percentEncode escapes (utf8 segment)).toList) :
    (c = '%' ∨ ∃ value < 16, c = escapeDigit value) ∨
      ∃ byte ∈ utf8 segment, escapes byte = false ∧ c = Char.ofNat byte.toNat := by
  rw [toList_percentEncode, List.mem_flatMap] at member
  obtain ⟨byte, inside, isWritten⟩ := member
  rw [writtenByte] at isWritten
  split at isWritten
  · exact .inl (mem_escapeOf isWritten)
  · next unescaped =>
    exact .inr ⟨byte, inside, Bool.not_eq_true _ ▸ unescaped, List.mem_singleton.mp isWritten⟩

theorem IsPathSet.isPlain_of_mem (pathSet : IsPathSet escapes)
    (member : c ∈ (percentEncode escapes (utf8 segment)).toList) : IsPlain escapes c := by
  have digits : ∀ value < 16, (escapeDigit value).isAlphanum = true ∧ (escapeDigit value).toNat < 128 :=
    by decide
  rcases mem_percentEncode member with (rfl | ⟨value, small, rfl⟩) | ⟨byte, -, unescaped, rfl⟩
  · exact ⟨by decide, pathSet.percent⟩
  · exact pathSet.isPlain_of_isAlphanum (digits value small).1 (digits value small).2
  · rw [IsPlain, toNat_ofNat_toNat, UInt8.ofNat_toNat]
    exact ⟨pathSet.toNat_lt unescaped, unescaped⟩

/-- A slash of either kind is only written where there is one. -/
theorem IsPathSet.mem_of_mem (pathSet : IsPathSet escapes)
    (isSlash : c = '/' ∨ c = '\\')
    (member : c ∈ (percentEncode escapes (utf8 segment)).toList) :
    c ∈ segment := by
  have digits : ∀ value < 16, escapeDigit value ≠ '/' ∧ escapeDigit value ≠ '\\' := by decide
  rcases mem_percentEncode member with (rfl | ⟨value, small, rfl⟩) | ⟨byte, inside, unescaped, rfl⟩
  · exact absurd isSlash (by decide)
  · exact absurd isSlash (not_or.mpr (digits value small))
  · by_contra absent
    have missing : Char.ofNat byte.toNat ∉ (String.ofList segment).toList := by
      rwa [String.toList_ofList]
    have small := pathSet.toNat_lt unescaped
    rw [← toNat_ofNat_toNat byte] at small
    have notInside := Text.not_mem_bytes small missing
    rw [toNat_ofNat_toNat, UInt8.ofNat_toNat] at notInside
    exact notInside inside

/-- Characters that a path keeps are written as they are. -/
theorem percentEncode_of_plain {segment : String}
    (plain : ∀ c ∈ segment.toList, IsPlain escapes c) :
    percentEncode escapes (utf8 segment.toList) = segment := by
  apply String.toList_injective
  rw [toList_percentEncode, utf8_of_ascii fun c member => (plain c member).1, List.flatMap_map]
  refine (List.flatMap_congr fun c member => ?_).trans (List.flatMap_singleton' segment.toList)
  have bounded : c.toNat < 2 ^ 8 := by
    have small := (plain c member).1
    omega
  rw [writtenByte, (plain c member).2, UInt8.toNat_ofNat_of_lt' bounded, Char.ofNat_toNat]
  rfl

end Written

/-- A segment that is kept as it is when it is read again. -/
structure IsKept (escapes : UInt8 → Bool) (special : Bool) (segment : String) : Prop where
  plain : ∀ c ∈ segment.toList, IsPlain escapes c
  noSlash : ∀ c ∈ segment.toList, isSlash special c = false
  noDots : isDots segment = false

section Kept

variable {escapes : UInt8 → Bool} {special : Bool}

theorem isKept_empty (escapes : UInt8 → Bool) (special : Bool) : IsKept escapes special "" where
  plain := nofun
  noSlash := nofun
  noDots := by decide

theorem isSlash_eq_true_iff {c : Char} :
    isSlash special c = true ↔ c = '/' ∨ special = true ∧ c = '\\' := by
  rw [isSlash, Bool.or_eq_true, Bool.and_eq_true, decide_eq_true_eq, decide_eq_true_eq]

theorem noSlash_percentEncode (pathSet : IsPathSet escapes) {piece : List Char}
    (noSlash : ∀ c ∈ piece, isSlash special c = false) :
    ∀ c ∈ (percentEncode escapes (utf8 piece)).toList, isSlash special c = false := by
  intro c member
  cases slash : isSlash special c with
  | false => rfl
  | true =>
    have eitherSlash := (isSlash_eq_true_iff.mp slash).imp_right And.right
    rw [← slash, noSlash c (pathSet.mem_of_mem eitherSlash member)]

theorem toNat_lt_of_isAlpha {letter : Char} (isLetter : letter.isAlpha = true) :
    letter.toNat < 128 := by
  have cases : (letter.isUpper || letter.isLower) = true := isLetter
  rw [Bool.or_eq_true] at cases
  rcases cases with capital | small
  · have bounds : letter.val ≥ 'A'.val ∧ letter.val ≤ 'Z'.val := of_decide_eq_true capital
    exact Nat.lt_of_le_of_lt (UInt32.le_iff_toNat_le.mp bounds.2) (by decide)
  · have bounds : (decide (letter.val ≥ 'a'.val) && decide (letter.val ≤ 'z'.val)) = true := small
    rw [Bool.and_eq_true, decide_eq_true_eq, decide_eq_true_eq] at bounds
    exact Nat.lt_of_le_of_lt (UInt32.le_iff_toNat_le.mp bounds.2) (by decide)

/-- A letter with a colon is no dot segment. -/
theorem isDots_drive (letter : Char) : isDots (String.ofList [letter, ':']) = false := by
  have differs (text : String) (ends : text.toList[1]? ≠ some ':') :
      String.ofList [letter.toLower, ':'] ≠ text := by
    rintro rfl
    rw [String.toList_ofList] at ends
    exact ends rfl
  have colon : Char.toLower ':' = ':' := by decide
  simp only [isDots, isSingleDot, isDoubleDot, String.toList_ofList, List.map_cons, List.map_nil,
    colon, Bool.or_eq_false_iff, decide_eq_false_iff_not]
  refine ⟨⟨?_, ?_⟩, ⟨⟨?_, ?_⟩, ?_⟩, ?_⟩ <;> exact differs _ (by decide)

/-- A drive is kept with a colon. -/
theorem isKept_drive (pathSet : IsPathSet escapes) {letter : Char}
    (isLetter : letter.isAlpha = true) :
    IsKept escapes special (String.ofList [letter, ':']) where
  plain := by
    have alphanumeric : letter.isAlphanum = true := by
      rw [Char.isAlphanum, isLetter, Bool.true_or]
    have plain := pathSet.isPlain_of_isAlphanum alphanumeric (toNat_lt_of_isAlpha isLetter)
    rw [String.toList_ofList, List.forall_mem_cons, List.forall_mem_singleton]
    exact ⟨plain, by decide, pathSet.colon⟩
  noSlash := by
    have notSlash : letter ≠ '/' ∧ letter ≠ '\\' := by
      constructor <;> rintro rfl <;> exact absurd isLetter (by decide)
    rw [String.toList_ofList, List.forall_mem_cons, List.forall_mem_singleton]
    simp [isSlash, notSlash]
  noDots := isDots_drive letter

end Kept

end Standard
end Url
end Holdout
