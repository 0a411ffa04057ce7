import Holdout.Url.Basic

/-!
# Reading addresses

An absolute address is read as browsers do: white space around it and line breaks
inside it are dropped, backslashes count as slashes in special schemes, and dot segments
are resolved.
-/

namespace Holdout
namespace Url

/-- Schemes whose addresses name a host and split their paths at backslashes, too. -/
def specialSchemes : List String := ["http", "https", "ws", "wss", "ftp", "file"]

/-- The usual port of a scheme. -/
def defaultPort? (scheme : String) : Option Nat :=
  if scheme = "http" ∨ scheme = "ws" then some 80
  else if scheme = "https" ∨ scheme = "wss" then some 443
  else if scheme = "ftp" then some 21
  else none

/-- Control characters and the space. -/
def isControlOrSpace (c : Char) : Bool := c.toNat ≤ 0x20

/-- The characters that count: none of the controls around the address, and no tabs and line breaks. -/
def significant (text : List Char) : List Char :=
  let trimmed := ((text.dropWhile isControlOrSpace).reverse.dropWhile isControlOrSpace).reverse
  trimmed.filter fun c => c ≠ '\t' ∧ c ≠ '\n' ∧ c ≠ '\r'

/-- A character of a scheme behind the first one. -/
def isSchemeChar (c : Char) : Bool := c.isAlphanum || c = '+' || c = '-' || c = '.'

/-- The scheme in small letters, and what stands behind its colon. -/
def splitScheme? (text : List Char) : Option (String × List Char) :=
  match text with
  | first :: _ =>
    if first.isAlpha then
      match text.dropWhile isSchemeChar with
      | ':' :: rest =>
        some (String.ofList ((text.takeWhile isSchemeChar).map Char.toLower), rest)
      | _ => none
    else none
  | [] => none

/-- A character that separates the segments of a path. -/
def isSlash (special : Bool) (c : Char) : Bool := c = '/' || (special && c = '\\')

/-- A character that ends a host or a path. -/
def isQueryOrFragment (c : Char) : Bool := c = '?' || c = '#'

/-- The parts of an address behind its path. -/
def readTail (special : Bool) (text : List Char) : Option String × Option String :=
  let fragment : List Char → Option String
    | '#' :: rest => some (percentEncode escapesInFragment (utf8 rest))
    | _ => none
  match text with
  | '?' :: rest =>
    (some (percentEncode (escapesInQuery special) (utf8 (rest.takeWhile (· ≠ '#')))),
      fragment (rest.dropWhile (· ≠ '#')))
  | _ => (none, fragment text)

/-- A dot segment that stays where it is. -/
def isSingleDot (segment : List Char) : Bool :=
  let text := String.ofList (segment.map Char.toLower)
  text = "." || text = "%2e"

/-- A dot segment that goes up. -/
def isDoubleDot (segment : List Char) : Bool :=
  let text := String.ofList (segment.map Char.toLower)
  text = ".." || text = ".%2e" || text = "%2e." || text = "%2e%2e"

/-- A letter before a colon or a bar. -/
def isDriveLetter (segment : List Char) : Bool :=
  match segment with
  | [letter, mark] => letter.isAlpha && (mark = ':' || mark = '|')
  | _ => false

/-- A segment that stands for a drive as far as it goes, up to a backslash. -/
def namesDrive (segment : String) : Bool :=
  isDriveLetter (segment.toList.takeWhile (· ≠ '\\'))

/-- The segments, which are held in reverse, without the last one. A drive stays. -/
def goUp : List String → List String
  | [] => []
  | last :: before => if namesDrive last then last :: before else before

/-- A segment as it is kept; a drive at the front of a file's path is written with a colon. -/
def keptSegment (isFile : Bool) (before : List String) (segment : List Char) : String :=
  match isFile && before.isEmpty && isDriveLetter segment, segment with
  | true, letter :: _ => String.ofList [letter, ':']
  | _, _ => percentEncode escapesInPath (utf8 segment)

/-- The segments of a path with its dot segments resolved; those before are held in reverse. -/
def resolveSegments (isFile : Bool) (before : List String) : List (List Char) → List String
  | [] => before.reverse
  | [last] =>
    if isDoubleDot last then ("" :: goUp before).reverse
    else if isSingleDot last then ("" :: before).reverse
    else (keptSegment isFile before last :: before).reverse
  | segment :: next :: rest =>
    if isDoubleDot segment then resolveSegments isFile (goUp before) (next :: rest)
    else if isSingleDot segment then resolveSegments isFile before (next :: rest)
    else resolveSegments isFile (keptSegment isFile before segment :: before) (next :: rest)

/-- Read a path behind its first slash. -/
def readSegments (scheme : String) (text : List Char) : List String :=
  resolveSegments (scheme = "file") [] (Text.splitWhere (isSlash (specialSchemes.contains scheme)) text)

/-- Read a path, with or without its first slash; only addresses of other schemes may have none. -/
def readPath (scheme : String) (text : List Char) : List String :=
  let special := specialSchemes.contains scheme
  match text with
  | [] => if special then [""] else []
  | c :: rest => if isSlash special c then readSegments scheme rest else readSegments scheme text

/-- The segments of a file's path, without empty ones at its front. Earlier editions of the standard left
them out. -/
def dropEmptyFront : List String → List String
  | "" :: next :: rest => dropEmptyFront (next :: rest)
  | segments => segments

/-- Segments as an address of a scheme keeps them. -/
def keptPath (scheme : String) (segments : List String) : Path :=
  .segments (if scheme = "file" then dropEmptyFront segments else segments)

/-- The text of a path, and what stands behind it. -/
def splitPath (text : List Char) : List Char × List Char :=
  (text.takeWhile (!isQueryOrFragment ·), text.dropWhile (!isQueryOrFragment ·))

/-- The address of these parts, where `tail` stands behind the path. -/
def ofParts (scheme : String) (authority : Option Authority) (segments : List String)
    (tail : List Char) : Url :=
  let (query, fragment) := readTail (specialSchemes.contains scheme) tail
  ⟨scheme, authority, keptPath scheme segments, query, fragment⟩

/-- The text before the last at sign, if there is one, and the text behind it. -/
def splitUserinfo (text : List Char) : Option (List Char) × List Char :=
  match text.reverse.dropWhile (· ≠ '@') with
  | [] => (none, text)
  | _ :: before => (some before.reverse, (text.reverse.takeWhile (· ≠ '@')).reverse)

/-- A part of an authority in its written form. -/
def userinfoText (text : List Char) : String := percentEncode escapesInUserinfo (utf8 text)

/-- The user name and the password, if it is not empty. -/
def readUserinfo (text : List Char) : String × Option String :=
  let password := (text.dropWhile (· ≠ ':')).drop 1
  (userinfoText (text.takeWhile (· ≠ ':')),
    if password.isEmpty then none else some (userinfoText password))

/-- The host and what stands behind it from a colon on; colons inside brackets belong to the host. -/
def splitHost (inBrackets : Bool) : List Char → List Char × List Char
  | [] => ([], [])
  | c :: rest =>
    if c = ':' ∧ !inBrackets then ([], c :: rest)
    else
      let (host, behind) :=
        splitHost (if c = '[' then true else if c = ']' then false else inBrackets) rest
      (c :: host, behind)

/-- Read a port; none stands for the usual one. -/
def readPort? (scheme : String) (digits : List Char) : Option (Option Nat) :=
  if digits.isEmpty then some none
  else do
    let port ← Text.natural? digits
    if 65535 < port then none
    else return if some port = defaultPort? scheme then none else some port

/-- Read an authority; with it what stands behind its port from a backslash on. An empty host is one
of another scheme, beside which stands no colon and no user. -/
def readAuthority? (scheme : String) (text : List Char) : Option (Authority × List Char) := do
  let special := specialSchemes.contains scheme
  let (userinfo, place) := splitUserinfo text
  let (username, password) := readUserinfo (userinfo.getD [])
  let (hostText, behind) := splitHost false place
  let host ← if special then specialHost? hostText else otherHost? hostText
  let hasUser := username ≠ "" || password.isSome
  if hostText.isEmpty && (special || hasUser || !behind.isEmpty) then none
  let port ← readPort? scheme ((behind.drop 1).takeWhile (· ≠ '\\'))
  return (⟨username, password, host, port⟩, behind.dropWhile (· ≠ '\\'))

/-- The end of an authority. -/
def endsAuthority (special : Bool) (c : Char) : Bool := isSlash special c || isQueryOrFragment c

/-- Read an address behind the two slashes that announce an authority. A lone at sign may end the
address, but no path can follow it. -/
def readAfterSlashes? (scheme : String) (text : List Char) : Option Url := do
  let special := specialSchemes.contains scheme
  let authorityText := text.takeWhile (!endsAuthority special ·)
  let behind := text.dropWhile (!endsAuthority special ·)
  if authorityText = ['@'] && !behind.isEmpty then none
  let (authority, more) ← readAuthority? scheme authorityText
  let (path, tail) := splitPath (more ++ behind)
  return ofParts scheme (some authority) (readPath scheme path) tail

/-- The authority of a file on this machine. -/
def localAuthority : Authority := ⟨"", none, .domain "", none⟩

/-- A host of a file's address; the local one is left out. -/
def fileHost? (text : List Char) : Option Host := do
  if text.isEmpty then return .domain ""
  let host ← specialHost? text
  return if host = .domain "localhost" then .domain "" else host

/-- The address of a file on this machine. -/
def localFile (segments : List String) (tail : List Char) : Url :=
  ofParts "file" (some localAuthority) segments tail

/-- Read a file's address whose host is named. A host before a drive is dropped. -/
def ofHostAndPath (host : Host) (path tail : List Char) : Url :=
  let segments := readPath "file" path
  let authority :=
    match segments with
    | first :: _ => if isDriveLetter first.toList then localAuthority else ⟨"", none, host, none⟩
    | [] => ⟨"", none, host, none⟩
  ofParts "file" (some authority) segments tail

/-- Read a file's address behind its scheme. A drive in the place of the host begins the path; behind
the place of an absent host, the slash makes an empty segment. -/
def readFile? (text : List Char) : Option Url :=
  match text with
  | first :: second :: rest =>
    if isSlash true first && isSlash true second then do
      let hostText := rest.takeWhile (!endsAuthority true ·)
      let (path, tail) := splitPath (rest.dropWhile (!endsAuthority true ·))
      if isDriveLetter hostText then
        return localFile (readSegments "file" (hostText ++ path)) tail
      let host ← fileHost? hostText
      return if host = .domain "" then localFile (readSegments "file" path) tail
        else ofHostAndPath host path tail
    else
      let (path, tail) := splitPath text
      some (localFile (readPath "file" path) tail)
  | _ =>
    let (path, tail) := splitPath text
    some (localFile (readPath "file" path) tail)

/-- Read an address of another scheme behind its scheme. -/
def readOther? (scheme : String) (text : List Char) : Option Url :=
  match text with
  | '/' :: '/' :: rest => readAfterSlashes? scheme rest
  | '/' :: _ =>
    let (path, tail) := splitPath text
    some (ofParts scheme none (readPath scheme path) tail)
  | _ =>
    let (path, tail) := splitPath text
    let (query, fragment) := readTail false tail
    some ⟨scheme, none, .opaqueText (percentEncode isControlByte (utf8 path)), query, fragment⟩

/-- Read an absolute address. -/
def parse? (text : String) : Option Url := do
  let (scheme, rest) ← splitScheme? (significant text.toList)
  if scheme = "file" then readFile? rest
  else if specialSchemes.contains scheme then
    readAfterSlashes? scheme (rest.dropWhile (isSlash true))
  else readOther? scheme rest

/-- The path of a local file's address: the segments with their escapes read. A drive is followed
by a slash. -/
def filePath? (url : Url) : Option (List UInt8) :=
  match url.authority, url.path with
  | some ⟨_, _, .domain host, _⟩, .segments segments =>
    if host = "" ∨ host = "localhost" then
      let bytes := segments.flatMap fun segment => 0x2F :: percentDecode segment.toUTF8.toList
      match bytes.reverse with
      | mark :: letter :: _ :: _ =>
        if (Char.ofNat letter.toNat).isAlpha && (mark == 0x3A || mark == 0x7C) then
          some (bytes ++ [0x2F])
        else some bytes
      | _ => some bytes
    else none
  | _, _ => none

end Url
end Holdout
