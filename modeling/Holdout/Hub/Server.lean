import Holdout.Fetcher
import Holdout.Hub.Endpoint
import Holdout.Hub.Response

/-!
# Hubs

A hub as it is seen by the one who asks: it lists splits and hands out pages, or fails,
and what it answers may depend on what it was asked before.
-/

namespace Holdout
namespace Hub

/-- Something that answers requests about hosted datasets. -/
structure Server where
  splits : String → Logged (Except Failure (List SplitEntry))
  /-- The answer to a request for rows after earlier ones, of which the last comes first. -/
  rows : List RowsRequest → RowsRequest → Logged (Except Failure Page)

namespace Server

/-- Fetch an answer and read it. -/
def answer (fetcher : Fetcher) (url : Url) (read : Json.Tree → Option α) :
    Logged (Except Failure α) := do
  match ← fetcher.fetch url.text with
  | .error cause => return .error cause
  | .ok body =>
    match body.readAll?.bind fun bytes => (treeOf? bytes.toList).bind read with
    | some value => return .ok value
    | none => return .error (.during (.readingResponse url.text) (.within .json))

/-- The hub whose answers a fetcher brings. -/
def ofFetcher (fetcher : Fetcher) (endpoint : Endpoint) : Server where
  splits dataset :=
    match endpoint.splitsUrl dataset with
    | .error cause => pure (.error cause)
    | .ok url => answer fetcher url splitsOfTree?
  rows _ request :=
    match endpoint.rowsUrl request with
    | .error cause => pure (.error cause)
    | .ok url => do
      Logged.note (.paging request.offset (request.offset + request.length) request.dataset)
      answer fetcher url Page.ofTree?

end Server

end Hub
end Holdout
