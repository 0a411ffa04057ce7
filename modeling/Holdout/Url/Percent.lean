import Holdout.Text.Quoted

/-!
# Percent encoding

Bytes written as a percent sign and two hexadecimal digits. Which characters are left
as they are depends on the part of an address they stand in.
-/

namespace Holdout
namespace Url

/-- Controls and everything beyond ASCII. -/
def isControlByte (byte : UInt8) : Bool := byte < 0x20 || 0x7E < byte

/-- Bytes that are written as escapes in a fragment. -/
def escapesInFragment (byte : UInt8) : Bool :=
  isControlByte byte || byte == 0x20 || byte == 0x22 || byte == 0x3C || byte == 0x3E ||
    byte == 0x60

/-- Bytes that are written as escapes in a path. -/
def escapesInPath (byte : UInt8) : Bool :=
  escapesInFragment byte || byte == 0x23 || byte == 0x3F || byte == 0x7B || byte == 0x7D

/-- Bytes that are written as escapes in a user name or a password. -/
def escapesInUserinfo (byte : UInt8) : Bool :=
  escapesInPath byte || byte == 0x2F || byte == 0x3A || byte == 0x3B || byte == 0x3D ||
    byte == 0x40 || (0x5B ≤ byte && byte ≤ 0x5E) || byte == 0x7C

/-- Bytes that are written as escapes in a query; special schemes escape the apostrophe, too. -/
def escapesInQuery (special : Bool) (byte : UInt8) : Bool :=
  isControlByte byte || byte == 0x20 || byte == 0x22 || byte == 0x23 || byte == 0x3C ||
    byte == 0x3E || (special && byte == 0x27)

/-- The escape of a byte. -/
def escapeOf (byte : UInt8) : String := "%" ++ Text.hexPair Text.capitalDigits byte

/-- Bytes as text, with the escape of each byte that needs one. -/
def percentEncode (escapes : UInt8 → Bool) (bytes : List UInt8) : String :=
  String.join (bytes.map fun byte =>
    if escapes byte then escapeOf byte else (Char.ofNat byte.toNat).toString)

/-- The value of a hexadecimal digit. -/
def hexDigit? (byte : UInt8) : Option UInt8 :=
  if 0x30 ≤ byte && byte ≤ 0x39 then some (byte - 0x30)
  else if 0x41 ≤ byte && byte ≤ 0x46 then some (byte - 0x37)
  else if 0x61 ≤ byte && byte ≤ 0x66 then some (byte - 0x57)
  else none

/-- Bytes with the escapes among them replaced by what they stand for. -/
def percentDecode : List UInt8 → List UInt8
  | 0x25 :: high :: low :: rest =>
    match hexDigit? high, hexDigit? low with
    | some high', some low' => (16 * high' + low') :: percentDecode rest
    | _, _ => 0x25 :: percentDecode (high :: low :: rest)
  | byte :: rest => byte :: percentDecode rest
  | [] => []

/-- The UTF-8 bytes of characters. -/
def utf8 (characters : List Char) : List UInt8 := (String.ofList characters).toUTF8.toList

end Url
end Holdout
