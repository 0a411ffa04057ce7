import Mathlib.Data.List.Basic
import Holdout.Proofs.Text.Bytes
import Holdout.Url.Percent

/-!
# Escapes

An escape is a percent sign with two capital digits, and stands for the byte that it was made of.
-/

namespace Holdout
namespace Url

theorem utf8_eq_flatMap (characters : List Char) :
    utf8 characters = characters.flatMap String.utf8EncodeChar := by
  have encoded := Text.bytes_eq_flatMap (String.ofList characters)
  rwa [String.toList_ofList] at encoded

theorem utf8_append (first second : List Char) :
    utf8 (first ++ second) = utf8 first ++ utf8 second := by
  simp only [utf8_eq_flatMap, List.flatMap_append]

/-- Characters below 128 are bytes of their own. -/
theorem utf8_of_ascii {characters : List Char} (ascii : ∀ c ∈ characters, c.toNat < 128) :
    utf8 characters = characters.map fun c => UInt8.ofNat c.toNat := by
  rw [utf8_eq_flatMap, List.map_eq_flatMap]
  exact List.flatMap_congr fun c member => Text.utf8EncodeChar_of_lt (ascii c member)

theorem toNat_ofNat_toNat (byte : UInt8) : (Char.ofNat byte.toNat).toNat = byte.toNat := by
  have bounded := byte.toNat_lt
  rw [Char.ofNat, dif_pos (.inl (by omega))]
  rfl

/-- The digit of an escape. -/
def escapeDigit (value : Nat) : Char := Text.capitalDigits.getD value '0'

theorem toList_escapeOf (byte : UInt8) :
    (escapeOf byte).toList =
      ['%', escapeDigit (byte.toNat / 16), escapeDigit (byte.toNat % 16)] := by
  simp only [escapeOf, Text.hexPair, String.toList_append, String.toList_ofList]
  rfl

theorem hexDigit?_escapeDigit :
    ∀ value < 16, hexDigit? (UInt8.ofNat (escapeDigit value).toNat) = some (UInt8.ofNat value) := by
  decide

/-- What an escape is made of is none of the characters that the digits and the sign are not. -/
theorem mem_escapeOf {c : Char} {byte : UInt8} (member : c ∈ (escapeOf byte).toList) :
    c = '%' ∨ ∃ value < 16, c = escapeDigit value := by
  have bounded := byte.toNat_lt
  rw [toList_escapeOf] at member
  simp only [List.mem_cons, List.not_mem_nil, or_false] at member
  rcases member with same | same | same
  · exact .inl same
  · exact .inr ⟨_, by omega, same⟩
  · exact .inr ⟨_, by omega, same⟩

theorem ascii_of_mem_escapeOf {c : Char} {byte : UInt8} (member : c ∈ (escapeOf byte).toList) :
    c.toNat < 128 := by
  have digits : ∀ value < 16, (escapeDigit value).toNat < 128 := by decide
  rcases mem_escapeOf member with rfl | ⟨value, small, rfl⟩
  · decide
  · exact digits value small

theorem percentDecode_cons_of_ne {byte : UInt8} (plain : byte ≠ 0x25) (rest : List UInt8) :
    percentDecode (byte :: rest) = byte :: percentDecode rest := by
  rw [percentDecode.eq_2]
  exact fun _ _ _ isMark => absurd isMark plain

theorem percentDecode_escapeOf (byte : UInt8) (rest : List UInt8) :
    percentDecode (utf8 (escapeOf byte).toList ++ rest) = byte :: percentDecode rest := by
  have bounded := byte.toNat_lt
  have value : 16 * UInt8.ofNat (byte.toNat / 16) + UInt8.ofNat (byte.toNat % 16) = byte := by
    have sixteen : UInt8.toNat 16 = 16 := rfl
    rw [← UInt8.toNat_inj, UInt8.toNat_add, UInt8.toNat_mul, UInt8.toNat_ofNat',
      UInt8.toNat_ofNat', sixteen]
    omega
  rw [utf8_of_ascii fun c => ascii_of_mem_escapeOf, toList_escapeOf]
  simp only [List.map_cons, List.map_nil, List.cons_append, List.nil_append]
  rw [show UInt8.ofNat '%'.toNat = 0x25 from rfl, percentDecode,
    hexDigit?_escapeDigit _ (by omega), hexDigit?_escapeDigit _ (by omega)]
  exact congrArg (· :: percentDecode rest) value

end Url
end Holdout
