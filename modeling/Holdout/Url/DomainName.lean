import Holdout.Url.Direction
import Holdout.Url.Joiner
import Holdout.Url.NameForm
import Holdout.Url.Punycode

/-!
# Domain names

Names of hosts as they are asked for: in small letters of ASCII. A label with other characters
is written in their place by its ASCII form, which begins with `xn--`.
-/

namespace Holdout
namespace Url

/-- ASCII characters that no name may hold. -/
def isForbiddenInDomain (c : Char) : Bool :=
  c.toNat ≤ 0x20 || c.toNat == 0x7F || "%#/:<>?@[\\]^|".toList.contains c

/-- What the ASCII forms of labels begin with. -/
def encodedMark : List Char := ['x', 'n', '-', '-']

/-- The most characters of a label that are encoded. -/
def encodingLimit : Nat := 1000

/-- The most characters of an encoded label that are read. -/
def decodingLimit : Nat := 2000

/-- A label as it is read and as it is asked for. -/
structure Label where
  text : List Char
  ascii : List Char
  deriving DecidableEq, Repr

namespace Label

/-- The label of an ASCII form behind its first characters. It has to be the only one for its text. -/
def ofEncoded? (written : List Char) : Option Label := do
  if written.getLast? = some '-' ∨ decodingLimit < written.length then none
  else
    let text ← Punycode.decode? written
    if nameForm? text = some text ∧ !text.all Punycode.isBasic then
      return ⟨text, encodedMark ++ written⟩
    else none

/-- Read a label that has the form of names. -/
def read? (form : List Char) : Option Label :=
  if encodedMark.isPrefixOf form then
    if form.all Punycode.isBasic then ofEncoded? (form.drop encodedMark.length) else none
  else if form.all Punycode.isBasic then some ⟨form, form⟩
  else if form.length ≤ encodingLimit then some ⟨form, encodedMark ++ Punycode.encode form⟩
  else none

/-- The label does not begin with a mark, and its joiners stand where they may. -/
def isWellFormed (label : Label) : Bool :=
  !(label.text.head?.any Text.isMark) && joinersFit [] label.text

end Label

/-- Labels with dots between them. -/
def joinLabels : List (List Char) → List Char
  | [] => []
  | [label] => label
  | label :: rest => label ++ '.' :: joinLabels rest

/-- The ASCII form of a name. -/
def asciiName? (name : List Char) : Option (List Char) := do
  let form ← nameForm? name
  let labels ← (Text.splitWhere (· == '.') form).mapM Label.read?
  let ascii := joinLabels (labels.map Label.ascii)
  if labels.all Label.isWellFormed && keepDirections (labels.map Label.text) && ascii ≠ [] &&
      !ascii.any isForbiddenInDomain then
    return ascii
  else none

end Url
end Holdout
