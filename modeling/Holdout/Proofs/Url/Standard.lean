import Holdout.Proofs.Url.Form
import Holdout.Url.Library

/-!
# Libraries that follow the standard

What the URL standard says of libraries of addresses. `record` is the record that the standard has of an
address. Its path state takes a path piece by piece: each is escaped as far as needed, dot segments tell
where to go, and a drive at the front of a file's path gets a colon.

A library in the words of the standard follows it. The library at hand parts from it where a path holds a
drive, which it never goes up from in any scheme, and in addresses of files, where it leaves out empty
segments at the front, as earlier editions of the standard did.
-/

namespace Holdout
namespace Url
namespace Standard

/-- Bytes that some edition of the standard escapes in paths: controls and everything beyond ASCII, but
neither letters and digits nor the percent sign and the colon. -/
structure IsPathSet (escapes : UInt8 → Bool) : Prop where
  controls : ∀ byte, isControlByte byte = true → escapes byte = true
  alphanumeric : ∀ byte, (Char.ofNat byte.toNat).isAlphanum = true → escapes byte = false
  percent : escapes 0x25 = false
  colon : escapes 0x3A = false

section PathState

variable (isFile : Bool)

/-- A drive that is written with a colon. -/
def isNormalDrive (segment : String) : Bool :=
  match segment.toList with
  | [letter, ':'] => letter.isAlpha
  | _ => false

/-- The segments, held in reverse, without the last one. A drive that is all of a file's path stays. -/
def shorten : List String → List String
  | [] => []
  | [only] => if isFile && isNormalDrive only then [only] else []
  | _ :: last :: before => last :: before

/-- The segment as it stands behind others. -/
def withColon (before : List String) (segment : String) : String :=
  match isFile && before.isEmpty && isDriveLetter segment.toList, segment.toList with
  | true, letter :: _ => String.ofList [letter, ':']
  | _, _ => segment

/-- A segment that does not stay in a path but tells where the path goes. -/
def isDots (segment : String) : Bool :=
  isSingleDot segment.toList || isDoubleDot segment.toList

/-- The segments, held in reverse, with one more. -/
def push (before : List String) (segment : String) : List String :=
  if isDoubleDot segment.toList then shorten isFile before
  else if isSingleDot segment.toList then before
  else withColon isFile before segment :: before

/-- The path of these segments behind those held in reverse. Dots at its end leave an empty segment. -/
def resolve (before : List String) : List String → List String
  | [] => before.reverse
  | [last] => ((if isDots last then [""] else []) ++ push isFile before last).reverse
  | segment :: next :: rest => resolve (push isFile before segment) (next :: rest)

end PathState

/-- A tab or a line break, which does not count. -/
def isBreak (c : Char) : Bool := c = '\t' || c = '\n' || c = '\r'

/-- The segments that the path state reads. -/
def readSegments (escapes : UInt8 → Bool) (scheme : String) (text : List Char) : List String :=
  let pieces := Text.splitWhere (isSlash (specialSchemes.contains scheme))
    (text.filter fun c => !isBreak c)
  resolve (scheme = "file") [] (pieces.map fun piece => percentEncode escapes (utf8 piece))

/-- The path of an address of a scheme: what the path state reads, or nothing at all in a scheme that
is not special. -/
inductive IsRead (escapes : UInt8 → Bool) (scheme : String) : List String → Prop
  | segments (text : List Char) : IsRead escapes scheme (readSegments escapes scheme text)
  | nothing : specialSchemes.contains scheme = false → IsRead escapes scheme []

/-- The query that carries pairs, if there are any. -/
def formed? : List (String × String) → Option String
  | [] => none
  | pairs => some (formQuery pairs)

/-- A name that is a reference to an address beside the base. -/
def IsPlainName (name : String) : Prop := name ≠ "" ∧ name.toList.all Char.isLower = true

end Standard

open Standard

/-- The library reads, writes and joins addresses as the standard says. -/
structure FollowsStandard (library : Library α) (record : α → Url) (escapes : UInt8 → Bool) :
    Prop where
  pathSet : IsPathSet escapes
  /-- A path that is not opaque comes from the path state. -/
  parse : ∀ {text address segments}, library.parse? text = some address →
    (record address).path = .segments segments → IsRead escapes (record address).scheme segments
  /-- The serializer of addresses. -/
  text : ∀ address, library.text address = (record address).text
  /-- The serializer of paths. -/
  path : ∀ address, library.path address = (record address).path.text
  /-- A path that is set is read by the path state, from behind its first slash. -/
  setPath : ∀ {address segments} (rest : List Char), (record address).path = .segments segments →
    record (library.setPath address (String.ofList ('/' :: rest))) = { record address with
      path := .segments (Standard.readSegments escapes (record address).scheme rest) }
  /-- A relative reference takes the place of the last segment, and drops the query and the fragment. -/
  join : ∀ {address segments name}, (record address).path = .segments segments →
    IsPlainName name → ∃ joined, library.join? address name = some joined ∧
      record joined = { record address with
        path := .segments
          ((shorten ((record address).scheme = "file") segments.reverse).reverse ++ [name])
        query := none
        fragment := none }
  /-- The serializer of forms, where the query has come from it as well. -/
  appendPair : ∀ {address pairs} (pair : String × String), (record address).query = formed? pairs →
    record (library.appendPair address pair) = { record address with
      query := formed? (pairs ++ [pair]) }

namespace Standard

/-- The path state would leave the path as it is. -/
def isReadAgain (url : Url) : Bool :=
  match url.path with
  | .segments segments =>
    readSegments escapesInPath url.scheme (url.path.text.toList.drop 1) = segments
  | .opaqueText _ => true

/-- The library in the words of the standard. It reads the addresses that the library at hand reads, but
none whose path the path state would change. -/
def reference : Library Url where
  parse? := fun text => (parse? text).filter isReadAgain
  text := text
  path := fun url => url.path.text
  setPath := fun url written =>
    match url.path with
    | .segments _ => { url with
        path := .segments (readSegments escapesInPath url.scheme (written.toList.drop 1)) }
    | .opaqueText _ => url
  join? := fun url name =>
    match url.path with
    | .segments segments => some { url with
        path := .segments ((shorten (url.scheme = "file") segments.reverse).reverse ++ [name])
        query := none
        fragment := none }
    | .opaqueText _ => none
  appendPair := appendPair

theorem isPathSet_escapesInPath : IsPathSet escapesInPath where
  controls := fun byte control => by
    simp only [escapesInPath, escapesInFragment, control, Bool.true_or]
  alphanumeric := fun byte alphanumeric => by
    have checked : ∀ number < 256, (Char.ofNat number).isAlphanum = true →
        escapesInPath (UInt8.ofNat number) = false := by
      decide +kernel
    rw [← UInt8.ofNat_toNat (x := byte)]
    exact checked _ byte.toNat_lt alphanumeric
  percent := rfl
  colon := rfl

/-- A pair is written behind those that are there. -/
theorem appendPair_of_formed {url : Url} {pairs : List (String × String)} (pair : String × String)
    (isQuery : url.query = formed? pairs) :
    url.appendPair pair = { url with query := formed? (pairs ++ [pair]) } := by
  rw [appendPair, isQuery]
  cases pairs with
  | nil => rfl
  | cons first rest =>
    have notEmpty : first :: rest ≠ [] := List.cons_ne_nil first rest
    have joined : (if formQuery (first :: rest) = "" then "" else formQuery (first :: rest) ++ "&") =
        formQuery (first :: rest) ++ "&" := if_neg (formQuery_ne_empty notEmpty)
    change { url with query := some ((if formQuery (first :: rest) = "" then "" else
        formQuery (first :: rest) ++ "&") ++ String.ofList (formPair pair)) } =
      { url with query := some (formQuery (first :: rest ++ [pair])) }
    rw [joined, formQuery_concat notEmpty]

theorem reference_followsStandard : FollowsStandard reference id escapesInPath where
  pathSet := isPathSet_escapesInPath
  parse := by
    intro text url segments read isPath
    obtain ⟨-, again⟩ := Option.filter_eq_some_iff.mp read
    rw [isReadAgain, show url.path = .segments segments from isPath, decide_eq_true_eq] at again
    exact again ▸ .segments _
  text := fun _ => rfl
  path := fun _ => rfl
  setPath := by
    intro url segments rest isPath
    simp only [reference, show url.path = .segments segments from isPath, String.toList_ofList, id_eq]
    rfl
  join := by
    intro url segments name isPath plain
    simp only [reference, show url.path = .segments segments from isPath, id_eq]
    exact ⟨_, rfl, rfl⟩
  appendPair := appendPair_of_formed

end Standard

end Url
end Holdout
