import Holdout.Archive.Samples
import Holdout.Document
import Holdout.Hub.Paging
import Holdout.Loader.Config

/-!
# Loaders

A loader is the source that fetches what a request names and reads it by its format: the
rows of a document, the samples of an archive, or the pages of a hub.
-/

namespace Holdout

/-- A source of everything that can be fetched. -/
structure Loader where
  fetcher : Fetcher
  config : LoaderConfig

/-- A stream that a loader has opened. -/
inductive LoadedStream
  | rows (results : List ItemResult)
  | archive (steps : List Archive.WalkStep)
  | hosted (server : Hub.Server) (paging : Hub.Paging)

namespace LoadedStream

/-- The next item. -/
def pull : LoadedStream → Logged (Option ItemResult × LoadedStream)
  | .rows results =>
    let (result, rest) := Source.popResult results
    pure (result, .rows rest)
  | .archive steps => do
    let (result, rest) ← Archive.pullStep steps
    return (result, .archive rest)
  | .hosted server paging => do
    let (result, paging) ← paging.next server
    return (result, .hosted server paging)

end LoadedStream

namespace Loader

/-- The loader as it is shown for inspection. -/
def shown (loader : Loader) : String :=
  LoaderConfig.shownFields "StreamingLoader" ["config: " ++ loader.config.shown, ".."]

/-- Open a document. -/
def openDocument (loader : Loader) (request : LoadRequest) :
    Logged (Except Failure LoadedStream) := do
  match ← loader.fetcher.fetch request.location with
  | .error cause => return .error cause
  | .ok body =>
    let rows ← Document.rows body request.location request.field
    return rows.map fun rows => .rows (rows.map fun row => .ok (.row row))

/-- Open an archive. -/
def openArchive (loader : Loader) (request : LoadRequest) :
    Logged (Except Failure LoadedStream) := do
  let fetched ← loader.fetcher.fetch request.location
  return fetched.map fun body => .archive (Archive.walk request.location body)

/-- Open a hosted dataset. -/
def openHosted (loader : Loader) (request : LoadRequest) :
    Logged (Except Failure LoadedStream) := do
  let opened ← Hub.Paging.openHosted (Hub.Server.ofFetcher loader.fetcher) loader.config
    request.location request.split
  return opened.map fun (server, paging) => .hosted server paging

/-- Open a stream for a request. -/
def openStream (loader : Loader) (request : LoadRequest) :
    Logged (Except Failure LoadedStream) := do
  Logged.note (.opening request.format request.split request.location)
  match request.format with
  | .webDataset => loader.openArchive request
  | .json => loader.openDocument request
  | .hub =>
    let opened ← loader.openHosted request
    return opened.mapError (.during (.openingHosted request.location))

/-- The loader as a source. -/
def source (loader : Loader) : Source Unit LoadedStream where
  openStream memory request := do
    let opened ← loader.openStream request
    return (opened, memory)
  pull := LoadedStream.pull

end Loader

end Holdout
