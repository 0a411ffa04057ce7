import Holdout.Url.Query
import Holdout.Url.Reading

/-!
# Libraries of addresses

What is asked of those who read, join and write addresses. How they keep an address is up to
them; the library at hand keeps it in parts.
-/

namespace Holdout
namespace Url

/-- A library that keeps an address as an `α`. -/
structure Library (α : Type) where
  parse? : String → Option α
  /-- The written form of an address. -/
  text : α → String
  /-- The written form of the path of an address. -/
  path : α → String
  setPath : α → String → α
  /-- The address that a reference stands for where another address is the base. -/
  join? : α → String → Option α
  /-- The address with one pair more in its query, form encoded. -/
  appendPair : α → String × String → α

/-- The address whose path ends in a slash, so that what is joined comes after all of it. -/
def Library.closed (library : Library α) (address : α) : α :=
  if (library.path address).toList.getLast? = some '/' then address
  else library.setPath address (library.path address ++ "/")

/-- The address with another path, which is read again: a drive may have come to its front. An opaque
path stays. -/
def setPath (url : Url) (written : String) : Url :=
  match url.path with
  | .segments _ => { url with path := keptPath url.scheme (readPath url.scheme written.toList) }
  | .opaqueText _ => url

/-- The address with one pair more in its query. -/
def appendPair (url : Url) (pair : String × String) : Url :=
  let before := url.query.getD ""
  let joined := if before = "" then "" else before ++ "&"
  { url with query := some (joined ++ String.ofList (formPair pair)) }

/-- The library at hand. -/
def library : Library Url where
  parse? := parse?
  text := text
  path := fun url => url.path.text
  setPath := setPath
  join? := join?
  appendPair := appendPair

end Url
end Holdout
