import Holdout.Hub.Server
import Holdout.Loader.Config
import Holdout.Source

/-!
# Paging through rows

The rows of a split are fetched page by page: the next page when all rows received so far
have been delivered. Paging ends at an empty page, when as many rows have been received
as the hub last said there are, or at a failure.
-/

namespace Holdout
namespace Hub

/-- Where paging stands. -/
structure Paging where
  dataset : String
  config : String
  split : String
  pageSize : Nat
  /-- The number of rows received. -/
  offset : Nat
  /-- The number of rows in all, as the hub last told it. -/
  total : Option Nat
  /-- Rows received and not yet delivered. -/
  page : List Json
  /-- No further page is to be fetched. -/
  done : Bool
  /-- The requests made so far, the last one first. -/
  asked : List RowsRequest

namespace Paging

/-- Nothing has been fetched. -/
def start (dataset config split : String) (pageSize : Nat) : Paging :=
  ⟨dataset, config, split, pageSize, 0, none, [], false, []⟩

/-- The request for the next page. -/
def request (paging : Paging) : RowsRequest :=
  ⟨paging.dataset, paging.config, paging.split, paging.offset, paging.pageSize⟩

/-- Take in a page. -/
def receive (paging : Paging) (page : Page) : Paging :=
  { paging with
    total := page.total.or paging.total
    done := paging.done || page.rows.isEmpty
    offset := paging.offset + page.rows.length
    page := page.rows }

/-- Fetch the next page. -/
def fetchPage (server : Server) (paging : Paging) : Logged (Except Failure Paging) := do
  match ← server.rows paging.asked paging.request with
  | .error cause => return .error cause
  | .ok page => return .ok ({ paging with asked := paging.request :: paging.asked }.receive page)

/-- There may be rows that have not been received. -/
def hasMore (paging : Paging) : Bool :=
  !paging.done &&
    match paging.total with
    | none => true
    | some total => paging.offset < total

/-- Deliver a row that has been received. -/
def deliver (paging : Paging) : Option ItemResult × Paging :=
  match paging.page with
  | row :: rest => (some (.ok (.row row)), { paging with page := rest })
  | [] => (none, paging)

/-- The next row. One request is made if there is nothing left to deliver. -/
def next (server : Server) (paging : Paging) : Logged (Option ItemResult × Paging) :=
  if paging.page.isEmpty ∧ paging.hasMore then do
    match ← paging.fetchPage server with
    | .error cause => return (some (.error cause), { paging with done := true })
    | .ok paging => return paging.deliver
  else pure paging.deliver

/-- The configuration of the first split of this name. -/
def findConfig (dataset split : String) (splits : List SplitEntry) : Except Failure String :=
  match splits.find? fun entry => entry.split = split with
  | some entry => .ok entry.config
  | none => .error (.missingSplit dataset split)

/-- Choose the configuration to page through: the given one, else the first with the split. -/
def chooseConfig (server : Server) (config : Option String) (dataset split : String) :
    Logged (Except Failure String) :=
  match config with
  | some config => pure (.ok config)
  | none => do
    match ← server.splits dataset with
    | .error cause => return .error cause
    | .ok splits => return findConfig dataset split splits

/-- Begin with the first page of a split. -/
def openSplit (server : Server) (config : Option String) (pageSize : Nat)
    (dataset split : String) : Logged (Except Failure Paging) := do
  match ← chooseConfig server config dataset split with
  | .error cause => return .error cause
  | .ok config => (start dataset config split pageSize).fetchPage server

/-- Begin with the first page of a split as a loader's settings say, at the hub behind their base
address. -/
def openHosted (connect : Endpoint → Server) (config : LoaderConfig) (dataset split : String) :
    Logged (Except Failure (Server × Paging)) :=
  match Endpoint.read config.hubEndpoint with
  | .error cause => pure (.error cause)
  | .ok endpoint => do
    let opened ← openSplit (connect endpoint) config.hubConfig config.pageSize dataset split
    return opened.map fun paging => (connect endpoint, paging)

end Paging

end Hub
end Holdout
