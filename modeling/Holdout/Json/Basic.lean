/-!
# JSON values

A value of a JSON document. Numbers are kept as the integers they are, or else as
doubles. An object keeps one value for each of its names.
-/

namespace Holdout

/-- A JSON value. -/
inductive Json
  | null
  | boolean (value : Bool)
  | integer (value : Int)
  | double (value : Float)
  | string (value : String)
  | array (items : List Json)
  | object (fields : List (String × Json))
  deriving Inhabited

namespace Json

/-- The value under a name of an object. -/
def field? (name : String) : Json → Option Json
  | .object fields => (fields.find? fun field => field.1 = name).map Prod.snd
  | _ => none

/-- The text of a string. -/
def text? : Json → Option String
  | .string value => some value
  | _ => none

/-- The items of an array. -/
def items? : Json → Option (List Json)
  | .array items => some items
  | _ => none

/-- Give a name its value among fields, in place of the value it had. -/
def setField (name : String) (value : Json) : List (String × Json) → List (String × Json)
  | [] => [(name, value)]
  | (other, held) :: rest =>
    if other = name then (name, value) :: rest else (other, held) :: setField name value rest

@[simp] theorem field?_object (name : String) (fields : List (String × Json)) :
    (object fields).field? name = (fields.find? fun field => field.1 = name).map Prod.snd := rfl

@[simp] theorem text?_string (value : String) : (string value).text? = some value := rfl

@[simp] theorem items?_array (items : List Json) : (array items).items? = some items := rfl

end Json

end Holdout
