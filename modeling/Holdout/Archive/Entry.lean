import Holdout.Archive.Sparse
import Holdout.Body

/-!
# Archive entries

An archive is cut into its entries in order. Entries that describe the one behind them,
with a long name or extended fields, are folded into it. The archive ends at a block of
zeros or where its bytes end; a broken header is the last entry.
-/

namespace Holdout
namespace Archive

/-- What an archive hands out at one place. -/
inductive Entry
  /-- A directory, a link or anything else that is no file. -/
  | other
  | file (path : List UInt8) (data : ByteArray)
  /-- A file whose data cannot be read. -/
  | brokenFile (path : List UInt8)
  /-- A place where no further entry can be found. -/
  | broken

/-- A line of extended fields: its length, a blank, a name, an equals sign and a value. -/
def extendedField? (line : List UInt8) : Option (List UInt8 × List UInt8) := do
  let lengthText ← String.fromUTF8? ⟨(line.takeWhile (· ≠ 0x20)).toArray⟩
  let length ← Text.naturalBelow? Word.limit lengthText.toList
  let field := (line.dropWhile (· ≠ 0x20)).drop 1
  if line.contains 0x20 ∧ field.contains 0x3D ∧ line.length + 1 = length then
    return (field.takeWhile (· ≠ 0x3D), (field.dropWhile (· ≠ 0x3D)).drop 1)
  else none

/-- The lines of extended fields up to the first empty one. -/
def extendedLines (bytes : List UInt8) : List (List UInt8) :=
  (bytes.foldr (fun byte (lines : List (List UInt8)) =>
    if byte = 0x0A then [] :: lines
    else match lines with
      | line :: rest => (byte :: line) :: rest
      | [] => [[byte]]) [[]]).takeWhile (· ≠ [])

/-- The path among extended fields; lines that are no fields do not count. -/
def extendedPath? (bytes : List UInt8) : Option (List UInt8) :=
  (((extendedLines bytes).filterMap extendedField?).find? fun field =>
    field.1 = "path".toUTF8.toList).map Prod.snd

/-- The size among extended fields that follow each other without a line that is no field. -/
def extendedSize? (bytes : List UInt8) : Option Nat := do
  let fields := ((extendedLines bytes).map extendedField?).takeWhile Option.isSome
  let (_, value) ← (fields.filterMap id).find? fun field => field.1 = "size".toUTF8.toList
  let text ← String.fromUTF8? ⟨value.toArray⟩
  Text.naturalBelow? Word.limit text.toList

/-- The header found at a place, or why there is none. -/
inductive Found
  | finished
  | broken
  | header (header : Header)

/-- Bytes of the archive from a place on, as many as there are. -/
def slice (body : Body) (place size : Nat) : ByteArray :=
  body.bytes.extract place (min (place + size) body.bytes.size)

/-- Look for a header at a place. -/
def headerAt (body : Body) (place : Nat) : Found :=
  let bytes := slice body place blockSize
  if body.bytes.size < place then .broken
  else if bytes.size = 0 then (if body.breaks then .broken else .finished)
  else if bytes.size < blockSize then .broken
  else
    let header : Header := ⟨bytes.toList⟩
    if header.isBlank then .finished
    else if header.statedSum? = some (header.actualSum % Word.halfLimit) then .header header
    else .broken

/-- The data behind a header, as much as there is of it; none if reading on fails. -/
def dataAt? (body : Body) (place size : Nat) : Option ByteArray :=
  let data := slice body place size
  if data.size < size ∧ body.breaks then none else some data

/-- What earlier entries say about the next one. -/
structure Described where
  longName : Option (List UInt8)
  hasLongLink : Bool
  extended : Option (List UInt8)
  deriving DecidableEq, Repr

/-- Nothing is said. -/
def Described.nothing : Described := ⟨none, false, none⟩

/-- The path of an entry: its long name without a zero byte at the end, else the path among its
extended fields, else that of its header. -/
def Described.path (described : Described) (header : Header) : List UInt8 :=
  match described.longName with
  | some name => if name.getLast? = some 0 then name.dropLast else name
  | none => (described.extended.bind extendedPath?).getD header.path

/-- The size of an entry's data, and the place behind it. What earlier entries say about the size
counts only for an entry that is itself no description. -/
def extent? (header : Header) (described : Described) (place : Nat) : Option (Nat × Nat) := do
  let stated ← header.size?
  let size :=
    if header.hasDescribingLetter then stated
    else (described.extended.bind extendedSize?).getD stated
  let next := place + (size + blockSize - 1) / blockSize * blockSize
  if size + blockSize - 1 < Word.limit ∧ next < Word.limit then return (size, next) else none

/-- The entry of a header that describes no other, whose data lies at a place; with it the number of
further blocks that belong to the header. -/
def deliver (body : Body) (header : Header) (described : Described) (place size : Nat) :
    Option (Entry × Nat) :=
  if header.typeByte = 0x53 then
    let blockAt (place : Nat) : Option (List UInt8) :=
      let block := slice body place blockSize
      if block.size = blockSize then some block.toList else none
    (sparseBlocks? header size blockAt (body.bytes.size / blockSize + 1) place).map fun count =>
      (.other, count)
  else if header.isFile then
    let path := described.path header
    match dataAt? body place size with
    | some data => some (.file path data, 0)
    | none => some (.brokenFile path, 0)
  else some (.other, 0)

/-- The entries from a place on, of which the first is described by earlier ones; there are at most
`fuel` headers left. -/
def entriesFrom (body : Body) : Nat → Nat → Described → List Entry
  | 0, _, _ => []
  | fuel + 1, place, described =>
    match headerAt body place with
    | .finished => if described = .nothing then [] else [.broken]
    | .broken => [.broken]
    | .header header =>
      let start := place + blockSize
      match extent? header described start with
      | none => [.broken]
      | some (size, next) =>
        let describes := header.dialect ≠ .old
        if describes ∧ header.typeByte = 0x4C then
          match described.longName, dataAt? body start size with
          | none, some data =>
            entriesFrom body fuel next { described with longName := some data.toList }
          | _, _ => [.broken]
        else if describes ∧ header.typeByte = 0x4B then
          match described.hasLongLink, dataAt? body start size with
          | false, some _ => entriesFrom body fuel next { described with hasLongLink := true }
          | _, _ => [.broken]
        else if describes ∧ header.typeByte = 0x78 then
          match described.extended, dataAt? body start size with
          | none, some data =>
            entriesFrom body fuel next { described with extended := some data.toList }
          | _, _ => [.broken]
        else
          match deliver body header described start size with
          | none => [.broken]
          | some (entry, blocks) =>
            entry :: entriesFrom body fuel (next + blocks * blockSize) .nothing

/-- The entries of an archive. -/
def entries (body : Body) : List Entry :=
  entriesFrom body (body.bytes.size / blockSize + 1) 0 .nothing

end Archive
end Holdout
