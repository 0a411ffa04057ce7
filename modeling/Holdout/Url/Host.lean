import Holdout.Text.Decimal
import Holdout.Url.DomainName
import Holdout.Url.Percent

/-!
# Hosts

The host of an address: a name, or a number of the Internet Protocol in either version.
A name of a special scheme that ends in a number must be a whole version 4 address.
-/

namespace Holdout
namespace Url

/-- A host. -/
inductive Host
  | domain (name : String)
  | ipv4 (address : Nat)
  | ipv6 (pieces : List Nat)
  deriving DecidableEq, Repr

/-- The value of a digit in a base of at most sixteen. -/
def digitBelow? (base : Nat) (c : Char) : Option Nat :=
  if c.toNat < 0x80 then
    (hexDigit? (UInt8.ofNat c.toNat)).map UInt8.toNat |>.filter (· < base)
  else none

/-- The value of digits in a base. -/
def digitsIn? (base : Nat) (digits : List Char) : Option Nat :=
  digits.foldlM (fun value c => (digitBelow? base c).map (base * value + ·)) 0

/-- A part of a version 4 address: decimal, octal after a zero, or hexadecimal after `0x`. -/
def ipv4Part? : List Char → Option Nat
  | [] => none
  | '0' :: 'x' :: digits => digitsIn? 16 digits
  | '0' :: 'X' :: digits => digitsIn? 16 digits
  | '0' :: next :: digits => digitsIn? 8 (next :: digits)
  | digits => digitsIn? 10 digits

/-- The parts of a name between its dots, without an empty part at the end. -/
def dottedParts (name : List Char) : List (List Char) :=
  let parts := Text.splitWhere (· == '.') name
  match parts.reverse with
  | [] :: before :: rest => (before :: rest).reverse
  | _ => parts

/-- The last part of the name is a number. -/
def endsInNumber (name : List Char) : Bool :=
  match (dottedParts name).getLast? with
  | none => false
  | some [] => false
  | some last => last.all Char.isDigit || (ipv4Part? last).isSome

/-- The address of up to four parts, of which the last one fills the bytes that are left. -/
def ipv4Address? (name : List Char) : Option Nat := do
  let numbers ← (dottedParts name).mapM ipv4Part?
  match numbers.reverse with
  | [] => none
  | last :: leading =>
    let leading := leading.reverse
    let room := Nat.pow 256 (4 - leading.length)
    if 3 < leading.length ∨ leading.any (255 < ·) ∨ room ≤ last then none
    else return leading.foldl (fun value number => 256 * value + number) 0 * room + last

/-- A version 4 address inside a version 6 address: four decimal numbers without leading zeros. -/
def embeddedIpv4? (text : List Char) : Option (List Nat) :=
  match (Text.splitWhere (· == '.') text).mapM (fun part =>
      if part.length = 0 ∨ (1 < part.length ∧ part.head? = some '0') then none
      else (Text.natural? part).filter (· ≤ 255)) with
  | some [first, second, third, fourth] => some [first * 256 + second, third * 256 + fourth]
  | _ => none

/-- A piece of a version 6 address. -/
def ipv6Piece? (text : List Char) : Option Nat :=
  if text.length = 0 ∨ 4 < text.length then none else digitsIn? 16 text

/-- Pieces between colons, of which the last may be a version 4 address. -/
def ipv6Pieces? (text : List Char) (mayEmbed : Bool) : Option (List Nat) :=
  if text = [] then some []
  else
    let parts := Text.splitWhere (· == ':') text
    match parts.reverse with
    | [] => some []
    | last :: before => do
      let leading ← before.reverse.mapM ipv6Piece?
      if mayEmbed && last.any (· = '.') then
        let tail ← embeddedIpv4? last
        return leading ++ tail
      else
        let tail ← ipv6Piece? last
        return leading ++ [tail]

/-- The text before the first double colon and the text behind it. -/
def cutDoubleColon : List Char → Option (List Char × List Char)
  | ':' :: ':' :: rest => some ([], rest)
  | c :: rest => (cutDoubleColon rest).map fun (before, behind) => (c :: before, behind)
  | [] => none

/-- The eight pieces of a version 6 address, of which a double colon may leave out some zeros. -/
def ipv6Address? (text : List Char) : Option (List Nat) :=
  match cutDoubleColon text with
  | none => (ipv6Pieces? text true).filter (·.length = 8)
  | some (before, behind) => do
    let leading ← ipv6Pieces? before false
    let trailing ← ipv6Pieces? behind true
    if leading.length + trailing.length < 8 then
      return leading ++ List.replicate (8 - leading.length - trailing.length) 0 ++ trailing
    else none

/-- The longest first run of zeros as its place and length. -/
def longestZeros (pieces : List Nat) : Nat × Nat :=
  let runs := (List.range pieces.length).map fun place =>
    (place, ((pieces.drop place).takeWhile (· = 0)).length)
  runs.foldl (fun best run => if best.2 < run.2 then run else best) (0, 0)

/-- Pieces of a version 6 address between colons. -/
def piecesText (pieces : List Nat) : String := String.intercalate ":" (pieces.map Text.hexLower)

/-- The written form of a host. -/
def Host.text : Host → String
  | .domain name => name
  | .ipv4 address =>
    String.intercalate "." ([24, 16, 8, 0].map fun shift => toString (address / Nat.pow 2 shift % 256))
  | .ipv6 pieces =>
    let (place, length) := longestZeros pieces
    if length < 2 then "[" ++ piecesText pieces ++ "]"
    else
      "[" ++ piecesText (pieces.take place) ++ "::" ++ piecesText (pieces.drop (place + length)) ++
        "]"

/-- An address between square brackets. -/
def bracketedHost? (text : List Char) : Option Host :=
  match text.reverse with
  | ']' :: inner => (ipv6Address? inner.reverse).map .ipv6
  | _ => none

/-- ASCII characters that no host of another scheme may hold. -/
def isForbiddenInHost (c : Char) : Bool :=
  "\x00\t\n\r #/:<>?@[\\]^|".toList.contains c

/-- A name of a special scheme, with its escapes read. -/
def domainName? (text : List Char) : Option (List Char) := do
  let decoded ← String.fromUTF8? ⟨(percentDecode (utf8 text)).toArray⟩
  asciiName? decoded.toList

/-- Read the host of a special scheme. -/
def specialHost? (text : List Char) : Option Host :=
  match text with
  | '[' :: rest => bracketedHost? rest
  | _ => do
    let name ← domainName? text
    if endsInNumber name then (ipv4Address? name).map .ipv4
    else return .domain (String.ofList name)

/-- Read the host of another scheme. -/
def otherHost? (text : List Char) : Option Host :=
  match text with
  | '[' :: rest => bracketedHost? rest
  | _ =>
    if text.any isForbiddenInHost then none
    else some (.domain (percentEncode isControlByte (utf8 text)))

end Url
end Holdout
