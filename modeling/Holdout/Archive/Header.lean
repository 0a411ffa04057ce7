import Holdout.Text.Blank
import Holdout.Text.Decimal
import Holdout.Word

/-!
# Archive headers

The fields of a tar header block. Numbers are octal text or, with the top bit set,
big-endian binary. Two dialects are told apart by their mark; only they know entries
that describe the next one.
-/

namespace Holdout
namespace Archive

/-- The size of a block. -/
def blockSize : Nat := 512

/-- A header block. -/
structure Header where
  bytes : List UInt8
  deriving DecidableEq, Repr

/-- The dialects of headers. -/
inductive Dialect
  | old
  | ustar
  | gnu
  deriving DecidableEq, Repr

namespace Header

/-- The bytes of a field. -/
def field (header : Header) (start size : Nat) : List UInt8 := (header.bytes.drop start).take size

/-- The bytes before the first zero byte. -/
def cut (bytes : List UInt8) : List UInt8 := bytes.takeWhile (· ≠ 0)

/-- Every byte is zero. -/
def isBlank (header : Header) : Bool := header.bytes.all (· == 0)

/-- The value of an octal digit. -/
def octalDigit? (c : Char) : Option Nat :=
  if '0' ≤ c ∧ c ≤ '7' then some (c.toNat - 48) else none

/-- The value of octal digits after at most one plus sign, in 64 bits. -/
def octalText? (text : List Char) : Option Nat :=
  let digits := match text with
    | '+' :: rest => rest
    | _ => text
  if digits = [] then none
  else
    (digits.foldlM (fun value c => (octalDigit? c).map (8 * value + ·)) 0).filter (· < Word.limit)

/-- The number that octal text in a field stands for; white space around it does not count. -/
def octal? (bytes : List UInt8) : Option Nat := do
  let text ← String.fromUTF8? ⟨(cut bytes).toArray⟩
  octalText? (Text.dropBlankEnds text.toList)

/-- The number of big-endian bytes. -/
def bigEndian (bytes : List UInt8) : Nat := bytes.foldl (fun value byte => 256 * value + byte.toNat) 0

/-- The number in a field. A binary one is the last eight bytes of a longer field. -/
def number? (bytes : List UInt8) : Option Nat :=
  match bytes with
  | [] => none
  | first :: rest =>
    if first < 0x80 then octal? bytes
    else if bytes.length = 8 then some (bigEndian ((first ^^^ 0x80) :: rest))
    else some (bigEndian (bytes.drop (bytes.length - 8)))

/-- The checksum that the header states. -/
def statedSum? (header : Header) : Option Nat := (octal? (header.field 148 8)).map (· % Word.halfLimit)

/-- The sum of all bytes, with blanks in the place of the checksum. -/
def actualSum (header : Header) : Nat :=
  ((header.bytes.take 148 ++ header.bytes.drop 156).foldl (fun sum byte => sum + byte.toNat) 0) +
    8 * 32

/-- The size that the header states for the data behind it. -/
def size? (header : Header) : Option Nat := number? (header.field 124 12)

/-- The letter for the type of the entry. -/
def typeByte (header : Header) : UInt8 := (header.bytes.drop 156).headD 0

/-- The entry is a file. -/
def isFile (header : Header) : Bool := header.typeByte == 0 || header.typeByte == 0x30

/-- The letter is one of those for long names, long links and extended fields, of one entry or of
all. -/
def hasDescribingLetter (header : Header) : Bool :=
  [0x4C, 0x4B, 0x78, 0x67].contains header.typeByte

/-- The dialect, by the mark and its version. -/
def dialect (header : Header) : Dialect :=
  let mark := header.field 257 8
  if mark = [0x75, 0x73, 0x74, 0x61, 0x72, 0, 0x30, 0x30] then .ustar
  else if mark = [0x75, 0x73, 0x74, 0x61, 0x72, 0x20, 0x20, 0] then .gnu
  else .old

/-- The path in the header; one dialect keeps the front of a long path apart. -/
def path (header : Header) : List UInt8 :=
  let name := cut (header.field 0 100)
  let front := cut (header.field 345 155)
  if header.dialect = .ustar ∧ front ≠ [] then front ++ 0x2F :: name else name

end Header

end Archive
end Holdout
