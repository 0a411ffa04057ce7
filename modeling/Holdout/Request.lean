/-!
# Load requests

What a validation set asks of the place its data comes from: a layout, a location
and a split.
-/

namespace Holdout

/-- How the data behind a location is laid out. -/
inductive SourceFormat
  /-- An archive in which files sharing a stem form one sample. -/
  | webDataset
  /-- A JSON document, or its values under one name. -/
  | json
  /-- A hosted dataset, read in pages by its identifier. -/
  | hub
  deriving DecidableEq, Repr

/-- The format's name. -/
def SourceFormat.name : SourceFormat → String
  | .webDataset => "webdataset"
  | .json => "json"
  | .hub => "hub"

/-- A request for one split of a dataset. -/
structure LoadRequest where
  format : SourceFormat
  /-- An address, a path or a hosted identifier. -/
  location : String
  split : String
  /-- The name that holds the records of a JSON document. -/
  field : Option String
  deriving DecidableEq, Repr

end Holdout
