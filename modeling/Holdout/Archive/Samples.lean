import Holdout.Archive.Entry
import Holdout.Archive.Member
import Holdout.Source

/-!
# Samples of an archive

Files that follow each other and have the same key form a sample. A sample is handed out
when a file with another key has been read, or at the end of the archive; a failure ends
the walk, and the sample that was being collected is lost.
-/

namespace Holdout
namespace Archive

/-- What a walk over an archive comes upon. -/
inductive WalkStep
  /-- A file without a readable name, which is left out. -/
  | skipped (path : List UInt8)
  /-- A sample, or the failure that ends the walk. -/
  | delivered (result : ItemResult)

/-- The failure of a walk. -/
def walkFailure (location : String) (activity : Activity) : Failure :=
  .during (.streamingArchive location) (.during activity (.within .io))

/-- The sample with one more file, which replaces one of the same name. -/
def Member.addTo (member : Member) (data : ByteArray) (sample : Sample) : Sample :=
  { sample with members := sample.members.insert member.name data }

/-- The sample of its first file. -/
def Member.begin (member : Member) (data : ByteArray) : Sample :=
  member.addTo data (Sample.new member.key)

/-- Walk over entries while a sample is being collected, or none is. -/
def walkFrom (location : String) (current : Option Sample) : List Entry → List WalkStep
  | [] => current.toList.map fun sample => .delivered (.ok (.sample sample))
  | .other :: rest => walkFrom location current rest
  | .broken :: _ => [.delivered (.error (walkFailure location .readingEntry))]
  | .brokenFile path :: rest =>
    match Member.ofPath? path with
    | none => .skipped path :: walkFrom location current rest
    | some _ => [.delivered (.error (walkFailure location (.readingMember path)))]
  | .file path data :: rest =>
    match Member.ofPath? path, current with
    | none, _ => .skipped path :: walkFrom location current rest
    | some member, none => walkFrom location (some (member.begin data)) rest
    | some member, some sample =>
      if sample.key = member.key then
        walkFrom location (some (member.addTo data sample)) rest
      else
        .delivered (.ok (.sample sample)) ::
          walkFrom location (some (member.begin data)) rest

/-- Walk over an archive. -/
def walk (location : String) (body : Body) : List WalkStep :=
  walkFrom location none (entries body)

/-- What a walk delivers. -/
def delivered (steps : List WalkStep) : List ItemResult :=
  steps.filterMap fun
    | .delivered result => some result
    | .skipped _ => none

/-- The next result of a walk; what is left out on the way is written down. -/
def pullStep : List WalkStep → Logged (Option ItemResult × List WalkStep)
  | [] => pure (none, [])
  | .delivered result :: rest => pure (some result, rest)
  | .skipped path :: rest => do
    Logged.note (.memberSkipped path)
    pullStep rest

end Archive
end Holdout
