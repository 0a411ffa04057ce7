import Holdout.Body
import Holdout.FilePath

/-!
# Files on a disk

What can be opened by its path. A directory can be opened like a file, but not read.
`DirectoryTree` holds files by their places and follows paths from a working directory.
-/

namespace Holdout

/-- A place where paths can be opened. -/
structure Disk where
  open? : List UInt8 → Option Body

namespace Disk

/-- All bytes of the file at a path. -/
def read? (disk : Disk) (path : List UInt8) : Option ByteArray :=
  (disk.open? path).bind Body.readAll?

/-- A disk on which nothing can be opened. -/
def empty : Disk := ⟨fun _ => none⟩

/-- A disk with these contents and no other paths to them. -/
def ofContents (contents : List (List UInt8 × Body)) : Disk :=
  ⟨fun path => (contents.find? fun entry => entry.1 = path).map Prod.snd⟩

end Disk

/-- The names that lead from the root to a place. -/
abbrev Place := List (List UInt8)

/-- Files and directories by their places. -/
structure DirectoryTree where
  workingDirectory : Place
  files : List (Place × ByteArray)
  directories : List Place

namespace DirectoryTree

/-- The directory in which a tree is to be built. -/
def rooted (workingDirectory : Place) : DirectoryTree := ⟨workingDirectory, [], []⟩

/-- The place of a path without dots, seen from the working directory. -/
def placeOf (tree : DirectoryTree) (path : List UInt8) : Place :=
  tree.workingDirectory ++ (FilePath.parts path).filter (!FilePath.isIdle ·)

/-- The tree with one more file. -/
def addFile (tree : DirectoryTree) (path : List UInt8) (data : ByteArray) : DirectoryTree :=
  { tree with files := (tree.placeOf path, data) :: tree.files }

/-- The tree with one more directory. -/
def addDirectory (tree : DirectoryTree) (path : List UInt8) : DirectoryTree :=
  { tree with directories := tree.placeOf path :: tree.directories }

/-- The contents of the file at a place. -/
def file? (tree : DirectoryTree) (place : Place) : Option ByteArray :=
  (tree.files.find? fun entry => entry.1 = place).map Prod.snd

/-- There is a directory at a place: an explicit one, or one on the way to something. -/
def isDirectory (tree : DirectoryTree) (place : Place) : Bool :=
  place.isPrefixOf tree.workingDirectory || tree.directories.any place.isPrefixOf ||
    tree.files.any fun entry => place ≠ entry.1 && place.isPrefixOf entry.1

/-- Go from a place along one part of a path; every place but the last must be a directory. -/
def walkPart? (tree : DirectoryTree) (place : Place) (part : List UInt8) : Option Place :=
  if !tree.isDirectory place then none
  else if FilePath.isIdle part then some place
  else if part = [FilePath.dot, FilePath.dot] then some place.dropLast
  else some (place ++ [part])

/-- Follow a path. -/
def resolve? (tree : DirectoryTree) (path : List UInt8) : Option Place :=
  if path = [] ∨ path.contains 0 then none
  else
    let start := if path.head? = some FilePath.slash then [] else tree.workingDirectory
    (FilePath.parts path).foldlM tree.walkPart? start

/-- The tree as a place where paths can be opened. -/
def disk (tree : DirectoryTree) : Disk where
  open? path := do
    let place ← tree.resolve? path
    match tree.file? place with
    | some data => return .ofBytes data
    | none => if tree.isDirectory place then return ⟨ByteArray.empty, true⟩ else none

end DirectoryTree

end Holdout
