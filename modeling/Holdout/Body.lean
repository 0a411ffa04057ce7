/-!
# Bodies

The contents of a document as a reader meets them: some bytes, and then either the
end or a failure to read on.
-/

namespace Holdout

/-- The contents of a fetched document. -/
structure Body where
  bytes : ByteArray
  /-- Reading past the bytes fails instead of ending. -/
  breaks : Bool
  deriving Inhabited

namespace Body

/-- A document that can be read to its end. -/
def ofBytes (bytes : ByteArray) : Body := ⟨bytes, false⟩

/-- All bytes, if the end can be reached. -/
def readAll? (body : Body) : Option ByteArray := if body.breaks then none else some body.bytes

end Body

end Holdout
