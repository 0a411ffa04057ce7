import Holdout.Archive.Header
import Holdout.Word

/-!
# Sparse files

The map of a sparse file lists the pieces that are stored, in the header and in blocks
behind it. Such entries are not delivered, but a map that contradicts itself breaks the
archive, and its blocks have to be stepped over.
-/

namespace Holdout
namespace Archive

/-- How far a map has been read: the end of the last piece, and the stored bytes not yet used. -/
structure SparseProgress where
  covered : Nat
  remaining : Nat
  deriving DecidableEq, Repr

/-- Read one more piece, given by its offset and length fields. -/
def SparseProgress.addPiece (size : Nat) (progress : SparseProgress) (piece : List UInt8) :
    Option SparseProgress :=
  let offsetField := piece.take 12
  let lengthField := (piece.drop 12).take 12
  if offsetField.headD 0 = 0 ∨ lengthField.headD 0 = 0 then some progress
  else do
    let offset ← Header.number? offsetField
    let length ← Header.number? lengthField
    if length ≠ 0 ∧ (size - progress.remaining) % blockSize ≠ 0 then none
    else if offset < progress.covered ∨ Word.limit ≤ offset + length ∨ progress.remaining < length then
      none
    else return ⟨offset + length, progress.remaining - length⟩

/-- Read so many pieces. -/
def SparseProgress.addPieces (size : Nat) (count : Nat) (pieces : List UInt8)
    (progress : SparseProgress) : Option SparseProgress :=
  (List.range count).foldlM (fun progress place =>
    progress.addPiece size (pieces.drop (24 * place))) progress

/-- Read the blocks that continue a map, from a place in the archive; the result is the progress and
the number of blocks. -/
def SparseProgress.addBlocks (size : Nat) (blockAt : Nat → Option (List UInt8)) :
    Nat → Nat → SparseProgress → Option (SparseProgress × Nat)
  | 0, _, _ => none
  | fuel + 1, place, progress => do
    let block ← blockAt place
    let progress ← progress.addPieces size 21 block
    if (block.drop 504).headD 0 = 1 then
      let (progress, count) ← addBlocks size blockAt fuel (place + blockSize) progress
      return (progress, count + 1)
    else return (progress, 1)

/-- The number of blocks behind the header that belong to its map; none if the map is broken. -/
def sparseBlocks? (header : Header) (size : Nat) (blockAt : Nat → Option (List UInt8))
    (fuel place : Nat) : Option Nat := do
  if header.dialect ≠ .gnu then none
  let progress ← SparseProgress.addPieces size 4 (header.field 386 96) ⟨0, size⟩
  let (progress, count) ←
    if (header.bytes.drop 482).headD 0 = 1 then
      SparseProgress.addBlocks size blockAt fuel place progress
    else some (progress, 0)
  let whole ← Header.number? (header.field 483 12)
  if progress.covered = whole ∧ progress.remaining = 0 then return count else none

end Archive
end Holdout
