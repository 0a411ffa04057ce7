import Holdout.Image.Basic
import Holdout.Image.Deflate

/-!
# PNG images

An image in chunks: a header, maybe a palette, and compressed rows. Each row was filtered
by its neighbours. The pixels may come in seven interlaced passes; each pass is a lattice of
pixels with rows of its own.
-/

namespace Holdout
namespace Png

/-- The first bytes of a file. -/
def signature : List UInt8 := [0x89, 0x50, 0x4E, 0x47, 0x0D, 0x0A, 0x1A, 0x0A]

/-- The big-endian number of four bytes at a place. -/
def quadAt? (bytes : ByteArray) (place : Nat) : Option Nat :=
  if place + 4 ≤ bytes.size then
    some ((List.range 4).foldl (fun value step =>
      256 * value + ((bytes[place + step]?).getD 0).toNat) 0)
  else none

/-- The remainder that a byte leaves in the checksum of a chunk. -/
def checkByte (sum : UInt32) (byte : UInt8) : UInt32 :=
  (List.range 8).foldl (fun sum _ =>
    if sum &&& 1 = 1 then (sum >>> 1) ^^^ 0xEDB88320 else sum >>> 1) (sum ^^^ byte.toUInt32)

/-- The checksum of a run of bytes. -/
def checksum (bytes : ByteArray) : UInt32 := bytes.foldl checkByte 0xFFFFFFFF ^^^ 0xFFFFFFFF

/-- How colours are written. -/
inductive ColourType
  | grey
  | rgb
  | indexed
  | greyAlpha
  | rgbAlpha
  deriving DecidableEq, Repr

/-- The number of samples of a pixel. -/
def ColourType.samples : ColourType → Nat
  | .grey => 1
  | .rgb => 3
  | .indexed => 1
  | .greyAlpha => 2
  | .rgbAlpha => 4

/-- The colour type of a code, with the depths that it allows. -/
def colourType? : UInt8 → Option (ColourType × List Nat)
  | 0 => some (.grey, [1, 2, 4, 8, 16])
  | 2 => some (.rgb, [8, 16])
  | 3 => some (.indexed, [1, 2, 4, 8])
  | 4 => some (.greyAlpha, [8, 16])
  | 6 => some (.rgbAlpha, [8, 16])
  | _ => none

/-- The header of an image. -/
structure Header where
  width : Nat
  height : Nat
  colour : ColourType
  /-- The bits of a sample. -/
  depth : Nat
  interlaced : Bool
  deriving DecidableEq, Repr

/-- Read a header. -/
def readHeader? (data : ByteArray) : Option Header := do
  let width ← quadAt? data 0
  let height ← quadAt? data 4
  match (data.extract 8 data.size).toList with
  | [depth, code, compression, filter, interlace] =>
    let (colour, depths) ← colourType? code
    if width = 0 ∨ height = 0 ∨ ¬depths.contains depth.toNat ∨ compression ≠ 0 ∨ filter ≠ 0 ∨
        1 < interlace then none
    return ⟨width, height, colour, depth.toNat, interlace = 1⟩
  | _ => none

/-- A chunk of a file. -/
structure Chunk where
  name : List UInt8
  data : ByteArray
  /-- The checksum fits the chunk. -/
  intact : Bool

/-- Read the chunk at a place, and the place behind it. -/
def chunkAt? (bytes : ByteArray) (place : Nat) : Option (Chunk × Nat) := do
  let size ← quadAt? bytes place
  let sum ← quadAt? bytes (place + 8 + size)
  if Nat.pow 2 31 ≤ size then none
  let body := bytes.extract (place + 4) (place + 8 + size)
  return (⟨(bytes.extract (place + 4) (place + 8)).toList,
    bytes.extract (place + 8) (place + 8 + size), (checksum body).toNat = sum⟩, place + 12 + size)

/-- An image cannot be read without a chunk whose name begins with a capital letter. -/
def Chunk.isCritical (chunk : Chunk) : Bool := chunk.name.headD 0 &&& 0x20 = 0

/-- The name of the header. -/
def headerName : List UInt8 := [0x49, 0x48, 0x44, 0x52]

/-- The name of a palette. -/
def paletteName : List UInt8 := [0x50, 0x4C, 0x54, 0x45]

/-- The name of compressed rows. -/
def rowsName : List UInt8 := [0x49, 0x44, 0x41, 0x54]

/-- The name of the last chunk. -/
def endName : List UInt8 := [0x49, 0x45, 0x4E, 0x44]

/-- The name of what says how the next picture of an animation is shown. -/
def frameName : List UInt8 := [0x66, 0x63, 0x54, 0x4C]

/-- The name of compressed rows of an animation. -/
def frameRowsName : List UInt8 := [0x66, 0x64, 0x41, 0x54]

/-- What the chunks before the rows say. -/
structure Preface where
  palette : Option ByteArray
  /-- The last number in the sequence of an animation's chunks. -/
  sequence : Option Nat

/-- A palette has up to 256 colours. -/
def isPaletteSize (size : Nat) : Bool := 3 ≤ size && size ≤ 768

/-- The number of the chunk that goes on with a sequence. -/
def nextInSequence (sequence : Option Nat) : Nat :=
  match sequence with
  | some number => number + 1
  | none => 0

/-- Read how the first picture of an animation is shown: it is as large as the image. -/
def readFrame? (header : Header) (preface : Preface) (data : ByteArray) : Option Preface := do
  let number ← quadAt? data 0
  let width ← quadAt? data 4
  let height ← quadAt? data 8
  let column ← quadAt? data 12
  let row ← quadAt? data 16
  match (data.extract 20 data.size).toList with
  | [_, _, _, _, disposal, blending] =>
    if number ≠ nextInSequence preface.sequence ∨ width ≠ header.width ∨ height ≠ header.height ∨
        column ≠ 0 ∨ row ≠ 0 ∨ 2 < disposal ∨ 1 < blending then none
    return { preface with sequence := some number }
  | _ => none

/-- Read one chunk before the rows. -/
def readPreface? (header : Header) (preface : Preface) (chunk : Chunk) : Option Preface :=
  if !chunk.intact then (if chunk.isCritical then none else some preface)
  else if chunk.name = paletteName then
    if preface.palette.isSome || !isPaletteSize chunk.data.size then none
    else some { preface with palette := some chunk.data }
  else if chunk.name = frameName then readFrame? header preface chunk.data
  else if chunk.isCritical then none
  else some preface

/-- The name in a chunk that begins at a place. -/
def nameAt? (bytes : ByteArray) (place : Nat) : Option (List UInt8) :=
  if bytes.size < place + 8 then none
  else some (bytes.extract (place + 4) (place + 8)).toList

/-- Read chunks up to the first one with rows, and the place of that one. -/
def readPrefaces? (header : Header) (bytes : ByteArray) :
    Nat → Nat → Preface → Option (Preface × Nat)
  | 0, _, _ => none
  | fuel + 1, place, preface => do
    let name ← nameAt? bytes place
    if name = endName then none
    if name = rowsName ∨ name = frameRowsName then return (preface, place)
    let (chunk, next) ← chunkAt? bytes place
    let preface ← readPreface? header preface chunk
    readPrefaces? header bytes fuel next preface

/-- Read rows chunk by chunk, up to a chunk with another name, of which only the name has to be there. -/
def readRowChunks? (bytes : ByteArray) : Nat → Nat → ByteArray → Option ByteArray
  | 0, _, _ => none
  | fuel + 1, place, packed => do
    if (← nameAt? bytes place) ≠ rowsName then return packed
    let (chunk, next) ← chunkAt? bytes place
    if !chunk.intact then none
    readRowChunks? bytes fuel next (packed ++ chunk.data)

/-- Read rows of an animation chunk by chunk. Each chunk has its number in the sequence, which follows
the last one. -/
def readFrameChunks? (bytes : ByteArray) (sequence : Nat) :
    Nat → Nat → ByteArray → Option ByteArray
  | 0, _, _ => none
  | fuel + 1, place, packed => do
    if (← nameAt? bytes place) ≠ frameRowsName then return packed
    let (chunk, next) ← chunkAt? bytes place
    let number ← quadAt? chunk.data 0
    if number ≠ sequence + 1 then none
    readFrameChunks? bytes number fuel next (packed ++ chunk.data.extract 4 chunk.data.size)

/-- The palette and the packed rows of a file, from the place behind its header on. -/
def readChunks? (header : Header) (bytes : ByteArray) (place : Nat) :
    Option (Option ByteArray × ByteArray) := do
  let fuel := bytes.size / 12 + 1
  let (preface, place) ← readPrefaces? header bytes fuel place ⟨none, none⟩
  let packed ←
    if (← nameAt? bytes place) = rowsName then readRowChunks? bytes fuel place ByteArray.empty
    else preface.sequence.bind fun sequence =>
      readFrameChunks? bytes sequence fuel place ByteArray.empty
  return (preface.palette, packed)

/-- The predictor that is nearest to its linear estimate, of left, above and above left. -/
def nearestNeighbour (left above corner : UInt8) : UInt8 :=
  let estimate : Int := (left.toNat : Int) + above.toNat - corner.toNat
  let toLeft := (estimate - left.toNat).natAbs
  let toAbove := (estimate - above.toNat).natAbs
  let toCorner := (estimate - corner.toNat).natAbs
  if toLeft ≤ toAbove ∧ toLeft ≤ toCorner then left
  else if toAbove ≤ toCorner then above
  else corner

/-- What a filter takes off a byte, by the bytes to the left, above, and above left. -/
def prediction? (filter left above corner : UInt8) : Option UInt8 :=
  match filter with
  | 0 => some 0
  | 1 => some left
  | 2 => some above
  | 3 => some (UInt8.ofNat ((left.toNat + above.toNat) / 2))
  | 4 => some (nearestNeighbour left above corner)
  | _ => none

/-- Undo the filter of a row. `step` bytes lie between a byte and the one to its left. -/
def unfilterRow? (filter : UInt8) (step : Nat) (above row : ByteArray) : Option ByteArray :=
  (List.range row.size).foldlM (fun (output : ByteArray) place => do
    let before (bytes : ByteArray) : UInt8 :=
      if place < step then 0 else (bytes[place - step]?).getD 0
    let taken ← prediction? filter (before output) ((above[place]?).getD 0) (before above)
    return output.push ((row[place]?).getD 0 + taken)) ByteArray.empty

/-- Pixels at regular distances, beginning at a column and a row. -/
structure Lattice where
  column : Nat
  row : Nat
  columnStep : Nat
  rowStep : Nat
  deriving DecidableEq, Repr

/-- The lattices in which the pixels of an image come. -/
def lattices (interlaced : Bool) : List Lattice :=
  if interlaced then
    [⟨0, 0, 8, 8⟩, ⟨4, 0, 8, 8⟩, ⟨0, 4, 4, 8⟩, ⟨2, 0, 4, 4⟩, ⟨0, 2, 2, 4⟩, ⟨1, 0, 2, 2⟩,
      ⟨0, 1, 1, 2⟩]
  else [⟨0, 0, 1, 1⟩]

/-- The number of places from a start on, in steps, below a size. -/
def stepsBelow (start step size : Nat) : Nat := (size - start + step - 1) / step

/-- Read so many rows of a width in bytes. The rows are followed by the place behind them. -/
def readRows? (data : ByteArray) (step width : Nat) :
    Nat → Nat → ByteArray → Array ByteArray → Option (Array ByteArray × Nat)
  | 0, place, _, rows => some (rows, place)
  | count + 1, place, above, rows =>
    if data.size < place + 1 + width then none
    else do
      let row ← unfilterRow? ((data[place]?).getD 0) step above
        (data.extract (place + 1) (place + 1 + width))
      readRows? data step width count (place + 1 + width) row (rows.push row)

/-- The bits of a pixel. -/
def Header.pixelBits (header : Header) : Nat := header.colour.samples * header.depth

/-- Read the rows of lattices, one lattice after the other. -/
def readLattices? (header : Header) (data : ByteArray) :
    List Lattice → Nat → Option (List (Lattice × Array ByteArray))
  | [], _ => some []
  | lattice :: rest, place => do
    let columns := stepsBelow lattice.column lattice.columnStep header.width
    let rows := if columns = 0 then 0 else stepsBelow lattice.row lattice.rowStep header.height
    let width := (columns * header.pixelBits + 7) / 8
    let (read, place) ← readRows? data (max 1 (header.pixelBits / 8)) width rows place
      ByteArray.empty #[]
    let others ← readLattices? header data rest place
    return (lattice, read) :: others

/-- The row in which a pixel lies and its place in that row. -/
def findPixel? (lattices : List (Lattice × Array ByteArray)) (column row : Nat) :
    Option (ByteArray × Nat) := do
  let (lattice, rows) ← lattices.find? fun (lattice, _) =>
    lattice.column ≤ column ∧ lattice.row ≤ row ∧
      (column - lattice.column) % lattice.columnStep = 0 ∧
      (row - lattice.row) % lattice.rowStep = 0
  let data ← rows[(row - lattice.row) / lattice.rowStep]?
  return (data, (column - lattice.column) / lattice.columnStep)

/-- The sample at a place of a row. -/
def sampleAt (depth : Nat) (row : ByteArray) (place : Nat) : Nat :=
  let byte (place : Nat) : Nat := ((row[place]?).getD 0).toNat
  if depth = 16 then 256 * byte (2 * place) + byte (2 * place + 1)
  else
    let bit := place * depth
    byte (bit / 8) / Nat.pow 2 (8 - depth - bit % 8) % Nat.pow 2 depth

/-- A sample of some depth as the nearest one of eight bits. -/
def eightBits (depth sample : Nat) : UInt8 :=
  if depth = 16 then UInt8.ofNat ((sample + 128) / 257)
  else UInt8.ofNat (sample * 255 / (Nat.pow 2 depth - 1))

/-- The value of a colour of a pixel at a place of a row. -/
def colourAt (header : Header) (palette row : ByteArray) (place channel : Nat) : UInt8 :=
  let sample (index : Nat) : Nat :=
    sampleAt header.depth row (place * header.colour.samples + index)
  match header.colour with
  | .indexed => (palette[3 * sample 0 + channel]?).getD 0
  | .grey => eightBits header.depth (sample 0)
  | .greyAlpha => eightBits header.depth (sample 0)
  | .rgb => eightBits header.depth (sample channel)
  | .rgbAlpha => eightBits header.depth (sample channel)

/-- What the bytes of an image are made of. -/
structure Contents where
  header : Header
  palette : Option ByteArray
  /-- The unpacked rows. -/
  rows : ByteArray

/-- Read the chunks of an image. -/
def readContents? (bytes : ByteArray) : Option Contents := do
  if (bytes.extract 0 8).toList ≠ signature then none
  let (first, place) ← chunkAt? bytes 8
  if first.name ≠ headerName ∨ !first.intact then none
  let header ← readHeader? first.data
  let (palette, packed) ← readChunks? header bytes place
  if header.colour = .indexed ∧ palette.isNone then none
  return ⟨header, palette, ← Deflate.unpack? packed⟩

namespace Contents

/-- The first row can be read. -/
def beginsWell (contents : Contents) : Bool :=
  match lattices contents.header.interlaced with
  | lattice :: _ =>
    let columns := stepsBelow lattice.column lattice.columnStep contents.header.width
    let width := (columns * contents.header.pixelBits + 7) / 8
    (readRows? contents.rows 1 width 1 0 ByteArray.empty #[]).isSome
  | [] => false

/-- The palette that colours are looked up in has part of a colour at its end. Reading breaks down
there when it comes to the first row. -/
def breaksDown (contents : Contents) : Bool :=
  contents.header.colour = .indexed &&
    (contents.palette.any fun palette => palette.size % 3 ≠ 0) && contents.beginsWell

/-- The image. -/
def image? (contents : Contents) : Option RgbImage := do
  let header := contents.header
  let lattices ← readLattices? header contents.rows (lattices header.interlaced) 0
  let palette := contents.palette.getD ByteArray.empty
  return RgbImage.ofFn header.width header.height fun column row channel =>
    match findPixel? lattices column row with
    | some (data, place) => colourAt header palette data place channel
    | none => 0

end Contents

end Png
end Holdout
