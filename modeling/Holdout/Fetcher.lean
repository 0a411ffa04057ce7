import Holdout.Disk
import Holdout.Journal
import Holdout.NameMap
import Holdout.Url.Reading

/-!
# Fetching documents

Where the contents behind a location come from: documents registered in memory, files on
a disk, or, for the locations of the web, a network. No network is at hand here, so
every request to it fails.
-/

namespace Holdout

/-- Something that has the contents behind locations. -/
structure Fetcher where
  fetch : String → Logged (Except Failure Body)

namespace Fetcher

/-- Documents registered under their locations. -/
def ofDocuments (documents : NameMap Body) : Fetcher where
  fetch location := do
    Logged.note (.fetched location)
    match documents.find? location with
    | some body => return .ok body
    | none => return .error (.unregistered location)

/-- The path that a location names: that of a file's address, or else the location itself. -/
def pathOf (location : String) : Except Failure (List UInt8) :=
  if "file:".isPrefixOf location then
    match Url.parse? location with
    | none => .error (.during (.readingLocation location) (.within .url))
    | some url =>
      match url.filePath? with
      | some path => .ok path
      | none => .error (.notLocal location)
  else .ok location.toUTF8.toList

/-- Open the file that a location names. -/
def openFile (disk : Disk) (location : String) : Except Failure Body := do
  let path ← pathOf location
  match disk.open? path with
  | some body => return body
  | none => throw (.during (.openingPath path) (.within .io))

/-- Files on a disk. -/
def ofDisk (disk : Disk) : Fetcher where
  fetch location := pure (openFile disk location)

/-- The location is one of the web. -/
def isRemote (location : String) : Bool :=
  "http://".isPrefixOf location || "https://".isPrefixOf location

/-- The web, and files on a disk for everything else. -/
def ofDiskAndWeb (disk : Disk) : Fetcher where
  fetch location := do
    if isRemote location then
      Logged.note (.requesting location)
      return .error (.during (.requesting location) (.within .http))
    else return openFile disk location

end Fetcher

end Holdout
