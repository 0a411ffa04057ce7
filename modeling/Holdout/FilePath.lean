/-!
# File paths

Paths are bytes cut at slashes. Empty parts and single dots inside a path do not count,
a single dot at its very front does. The parent of a path is kept as it was written.
-/

namespace Holdout
namespace FilePath

/-- The byte between the parts of a path. -/
def slash : UInt8 := 0x2F

/-- The byte of a dot. -/
def dot : UInt8 := 0x2E

/-- What stands before the first part: the root, or a dot of its own, or nothing. -/
def splitFront (path : List UInt8) : List UInt8 × List UInt8 :=
  match path with
  | 0x2F :: rest => ([slash], rest)
  | [0x2E] => ([dot], [])
  | 0x2E :: 0x2F :: rest => ([dot], slash :: rest)
  | _ => ([], path)

/-- The parts between slashes. -/
def parts : List UInt8 → List (List UInt8)
  | [] => [[]]
  | byte :: rest =>
    if byte = slash then [] :: parts rest
    else match parts rest with
      | part :: others => (byte :: part) :: others
      | [] => [[byte]]

/-- Parts joined by slashes. -/
def join : List (List UInt8) → List UInt8
  | [] => []
  | [part] => part
  | part :: rest => part ++ slash :: join rest

/-- A part that does not count. -/
def isIdle (part : List UInt8) : Bool := part = [] || part = [dot]

/-- The parts in reverse, from the last one that counts. -/
def lastFirst (body : List UInt8) : List (List UInt8) := (parts body).reverse.dropWhile isIdle

/-- The last part, if it is a name. -/
def fileName? (path : List UInt8) : Option (List UInt8) :=
  match lastFirst (splitFront path).2 with
  | [] => none
  | last :: _ => if last = [dot, dot] then none else some last

/-- The path without its last part that counts; none for the root and for no path at all. -/
def parent? (path : List UInt8) : Option (List UInt8) :=
  let (front, body) := splitFront path
  match lastFirst body with
  | _ :: before => some (front ++ join (before.dropWhile isIdle).reverse)
  | [] => if front = [dot] then some [] else none

/-- The file name up to its last dot, unless that is its first character. -/
def fileStem? (path : List UInt8) : Option (List UInt8) :=
  (fileName? path).map fun name =>
    match name.reverse.dropWhile (· ≠ dot) with
    | [] => name
    | [_] => name
    | _ :: before => before.reverse

end FilePath
end Holdout
