import Holdout.Text.Lowercase
import Holdout.Text.Quoted.Table

/-!
# Quoted text

How names and texts are shown inside messages: between double quotes, with every
character that would not be seen written as an escape. A path that is not UTF-8
shows each stray byte by its number.
-/

namespace Holdout
namespace Text

/-- A number in lowercase hexadecimal digits. -/
def hexLower (n : Nat) : String := String.ofList (Nat.toDigits 16 n)

/-- A byte in two hexadecimal digits taken from `digits`. -/
def hexPair (digits : Array Char) (byte : UInt8) : String :=
  String.ofList [digits.getD (byte.toNat / 16) '0', digits.getD (byte.toNat % 16) '0']

/-- The digits of capital hexadecimal numbers. -/
def capitalDigits : Array Char :=
  #['0', '1', '2', '3', '4', '5', '6', '7', '8', '9', 'A', 'B', 'C', 'D', 'E', 'F']

/-- A character that quoted text names by number. -/
def isHidden (c : Char) : Bool :=
  if ' ' ≤ c ∧ c ≤ '~' then false else inRanges hiddenRanges c

/-- The written form of one character between quotes. -/
def quotedChar (c : Char) : String :=
  match c with
  | '"' => "\\\""
  | '\\' => "\\\\"
  | '\n' => "\\n"
  | '\r' => "\\r"
  | '\t' => "\\t"
  | '\x00' => "\\0"
  | _ =>
    if isHidden c then "\\u\x7b" ++ hexLower c.toNat ++ "\x7d"
    else c.toString

/-- Text between double quotes, with escapes for what cannot be seen. -/
def quoted (text : String) : String :=
  text.foldl (fun written c => written ++ quotedChar c) "\"" ++ "\""

/-- Items between square brackets, separated by commas. -/
def bracketed (items : List String) : String :=
  "[" ++ String.intercalate ", " items ++ "]"

/-- A list of texts, each one quoted. -/
def quotedList (texts : List String) : String := bracketed (texts.map quoted)

/-- A list of numbers. -/
def numberList (numbers : List Nat) : String := bracketed (numbers.map toString)

/-- The first character of UTF-8 text, with the number of bytes it takes. -/
def firstChar? (bytes : List UInt8) : Option (Char × Nat) :=
  [1, 2, 3, 4].findSome? fun width =>
    match String.fromUTF8? ⟨(bytes.take width).toArray⟩ with
    | some text => match text.toList with
      | [c] => some (c, width)
      | _ => none
    | none => none

/-- The written form of bytes that should be UTF-8: characters as in quoted text, and a capital
hexadecimal number for each byte that belongs to no character. `skip` bytes were already read. -/
def quotedBytesAfter (skip : Nat) : List UInt8 → String
  | [] => ""
  | byte :: rest =>
    match skip with
    | skip + 1 => quotedBytesAfter skip rest
    | 0 =>
      match firstChar? (byte :: rest) with
      | some (c, width) => quotedChar c ++ quotedBytesAfter (width - 1) rest
      | none => "\\x" ++ hexPair capitalDigits byte ++ quotedBytesAfter 0 rest

/-- Bytes of a path between double quotes. -/
def quotedBytes (bytes : List UInt8) : String :=
  "\"" ++ quotedBytesAfter 0 bytes ++ "\""

end Text
end Holdout
