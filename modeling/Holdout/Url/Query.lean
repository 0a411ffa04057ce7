import Holdout.Text.Pieces
import Holdout.Url.Percent

/-!
# Form encoding

Pairs of names and values as the query of an address. Letters, digits and four marks
stand for themselves, a space is a plus sign, and every other byte is an escape. Reading
a query gives back the pairs it was written from.
-/

namespace Holdout
namespace Url

/-- Bytes that stand for themselves in a form. -/
def isFormPlain (byte : UInt8) : Bool :=
  (0x30 ≤ byte && byte ≤ 0x39) || (0x41 ≤ byte && byte ≤ 0x5A) ||
    (0x61 ≤ byte && byte ≤ 0x7A) || byte == 0x2A || byte == 0x2D || byte == 0x2E || byte == 0x5F

/-- The written form of one byte. -/
def formByte (byte : UInt8) : List Char :=
  if isFormPlain byte then [Char.ofNat byte.toNat]
  else if byte == 0x20 then ['+']
  else (escapeOf byte).toList

/-- The written form of a text. -/
def formText (text : String) : List Char := text.toUTF8.toList.flatMap formByte

/-- The written form of a pair. -/
def formPair (pair : String × String) : List Char := formText pair.1 ++ '=' :: formText pair.2

/-- The written form of pairs. -/
def formPairs : List (String × String) → List Char
  | [] => []
  | [pair] => formPair pair
  | pair :: rest => formPair pair ++ '&' :: formPairs rest

/-- The query that carries the pairs. -/
def formQuery (pairs : List (String × String)) : String := String.ofList (formPairs pairs)

/-- Read a form's text: plus signs are spaces and escapes are bytes. -/
def readFormText? (written : List Char) : Option String :=
  let spaced := written.map fun c => if c = '+' then ' ' else c
  String.fromUTF8? ⟨(percentDecode (utf8 spaced)).toArray⟩

/-- Read a pair, cut at its first equals sign. -/
def readFormPair? (written : List Char) : Option (String × String) := do
  let name ← readFormText? (written.takeWhile (· ≠ '='))
  let value ← readFormText? ((written.dropWhile (· ≠ '=')).drop 1)
  return (name, value)

/-- Read the pairs of a query. -/
def readFormQuery? (query : String) : Option (List (String × String)) :=
  ((Text.splitWhere (· == '&') query.toList).filter fun piece => !piece.isEmpty).mapM readFormPair?

end Url
end Holdout
