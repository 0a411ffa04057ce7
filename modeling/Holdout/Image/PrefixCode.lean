/-!
# Prefix codes

Codes of different lengths, numbered in order: shorter codes come first, and codes of the
same length follow each other. Such a code is known by how many codes there are of each
length, and by the symbols in the order of their codes.
-/

namespace Holdout

/-- A prefix code. -/
structure PrefixCode where
  /-- The number of codes of each length, from length one on. -/
  counts : List Nat
  /-- Symbols in the order of their codes. -/
  symbols : Array Nat

namespace PrefixCode

/-- The greatest length of a code. -/
def maxLength : Nat := 15

/-- The number of codes left after those of some lengths, if there are not too many. -/
def codesLeft? (counts : List Nat) : Option Nat :=
  counts.foldlM (fun left count => if count ≤ 2 * left then some (2 * left - count) else none) 1

/-- The code that gives each symbol a code of its length; length zero is for symbols without a code. -/
def ofLengths (lengths : List Nat) : PrefixCode where
  counts := (List.range maxLength).map fun place => lengths.count (place + 1)
  symbols := ((List.range maxLength).flatMap fun place =>
    (lengths.zipIdx.filter fun (length, _) => length = place + 1).map Prod.snd).toArray

/-- The code that gives each symbol a code of its length, if all codes are used. -/
def complete? (lengths : List Nat) : Option PrefixCode :=
  let code := ofLengths lengths
  if codesLeft? code.counts = some 0 then some code else none

/-- The code that gives each symbol a code of its length, if all codes are used, or if there is no
code, or only one of a single bit. -/
def sparse? (lengths : List Nat) : Option PrefixCode :=
  let used := lengths.filter (· ≠ 0)
  if used = [] ∨ used = [1] then some (ofLengths lengths) else complete? lengths

/-- Why there is no code at a place. -/
inductive Fault
  /-- The bits end before the code does. -/
  | cutOff
  /-- The bits are no code. -/
  | unassigned
  deriving DecidableEq, Repr

/-- Read a code bit by bit. `code` is what has been read, `first` the first code of its length and
`index` the place of that code's symbol. -/
def decodeFrom (bit? : Nat → Option Bool) (symbols : Array Nat) :
    List Nat → Nat → Nat → Nat → Nat → Except Fault (Nat × Nat)
  | [], _, _, _, _ => .error .unassigned
  | count :: counts, code, first, index, place =>
    match bit? place with
    | none => .error .cutOff
    | some bit =>
      let code := 2 * code + bit.toNat
      let first := 2 * first
      if code < first + count then
        match symbols[index + (code - first)]? with
        | some symbol => .ok (symbol, place + 1)
        | none => .error .unassigned
      else decodeFrom bit? symbols counts code (first + count) (index + count) (place + 1)

/-- Read the code that begins at a place of a bit sequence: its symbol, and the place behind it. -/
def decode (code : PrefixCode) (bit? : Nat → Option Bool) (place : Nat) :
    Except Fault (Nat × Nat) :=
  decodeFrom bit? code.symbols code.counts 0 0 0 place

end PrefixCode

end Holdout
