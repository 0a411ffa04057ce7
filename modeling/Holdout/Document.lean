import Holdout.Body
import Holdout.Journal
import Holdout.Json.Document

/-!
# Rows of a document

A document is one JSON value, or values one after the other. Its records are the values,
or what each of them holds under a name; an array stands for its items.
-/

namespace Holdout
namespace Document

/-- The values of a document, of which a single one is tried first. -/
def valuesBy (parsers : Json.Parsers) (bytes : List UInt8) : Except Failure (List Json) :=
  match parsers.single? bytes with
  | some value => .ok [value]
  | none =>
    match parsers.several? bytes with
    | some values => .ok values
    | none => .error (.during .parsingValues (.within .json))

/-- The values of a document. -/
def values (bytes : List UInt8) : Except Failure (List Json) := valuesBy Json.parsers bytes

/-- What a value holds under a name. -/
def selectField (field : String) (value : Json) : Except Failure Json :=
  match value.field? field with
  | some inner => .ok inner
  | none => .error (.missingField field)

/-- The records of a value: the items of an array, or the value. -/
def records : Json → List Json
  | .array items => items
  | value => [value]

/-- The records of values, or of what they hold under a name. -/
def select (field : Option String) (values : List Json) : Except Failure (List Json) := do
  let chosen ← match field with
    | none => pure values
    | some name => values.mapM (selectField name)
  return chosen.flatMap records

/-- The records of a body. -/
def ofBody (body : Body) (location : String) (field : Option String) :
    Except Failure (List Json) :=
  match body.readAll? with
  | none => .error (.during (.readingDocument location) (.within .io))
  | some bytes => do
    let values ← (values bytes.toList).mapError (.during (.parsingDocument location))
    (select field values).mapError (.during (.selecting location))

/-- The records of a body; their number is written down. -/
def rows (body : Body) (location : String) (field : Option String) :
    Logged (Except Failure (List Json)) :=
  match ofBody body location field with
  | .error cause => pure (.error cause)
  | .ok records => do
    Logged.note (.counted records.length location)
    return .ok records

end Document
end Holdout
