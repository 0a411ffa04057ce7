import Holdout.Failure
import Holdout.Url.Library

/-!
# The addresses of a hub

A hub answers questions about a dataset's splits and hands out rows, each under an
address below its base. The parameters stand in the query, form encoded. Any library of
addresses will do; an endpoint goes by the one at hand.
-/

namespace Holdout
namespace Hub

/-- A request for rows. -/
structure RowsRequest where
  dataset : String
  config : String
  split : String
  /-- Rows before the first one that is asked for. -/
  offset : Nat
  /-- The number of rows asked for. -/
  length : Nat
  deriving DecidableEq, Repr

/-- The parameters of a request for rows. -/
def RowsRequest.parameters (request : RowsRequest) : List (String × String) :=
  [("dataset", request.dataset), ("config", request.config), ("split", request.split),
    ("offset", toString request.offset), ("length", toString request.length)]

section Library

variable (library : Url.Library α)

/-- Read the base of a hub, whose path is to end in a slash. -/
def readBase (base : String) : Except Failure α :=
  match library.parse? base with
  | some address => .ok (library.closed address)
  | none => .error (.during (.readingEndpoint base) (.within .url))

/-- The address below a base that asks with these parameters. -/
def askBelow (base : α) (name : String) (parameters : List (String × String)) :
    Except Failure α :=
  match library.join? base name with
  | some address => .ok (parameters.foldl library.appendPair address)
  | none => .error (.within .url)

/-- The address that asks for the splits of a dataset. -/
def askSplits (base : α) (dataset : String) : Except Failure α :=
  askBelow library base "splits" [("dataset", dataset)]

/-- The address that asks for rows. -/
def askRows (base : α) (request : RowsRequest) : Except Failure α :=
  askBelow library base "rows" request.parameters

end Library

/-- The base under which a hub answers; its path ends in a slash. -/
structure Endpoint where
  base : Url
  deriving DecidableEq, Repr

namespace Endpoint

/-- Read the base of a hub. -/
def read (base : String) : Except Failure Endpoint := (readBase Url.library base).map Endpoint.mk

/-- The address that asks for the splits of a dataset. -/
def splitsUrl (endpoint : Endpoint) (dataset : String) : Except Failure Url :=
  askSplits Url.library endpoint.base dataset

/-- The address that asks for rows. -/
def rowsUrl (endpoint : Endpoint) (request : RowsRequest) : Except Failure Url :=
  askRows Url.library endpoint.base request

end Endpoint

end Hub
end Holdout
