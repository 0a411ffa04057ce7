import Holdout.Url.Host

/-!
# Addresses

An address in parts, and its written form. The path is a list of segments; only an
address without a host and without a slash after its scheme has an opaque path instead,
and nothing can be joined to it.
-/

namespace Holdout
namespace Url

/-- Who is asked, at which host. -/
structure Authority where
  username : String
  password : Option String
  host : Host
  /-- The port, unless it is the usual one of the scheme. -/
  port : Option Nat
  deriving DecidableEq, Repr

/-- The path of an address. -/
inductive Path
  | opaqueText (written : String)
  | segments (parts : List String)
  deriving DecidableEq, Repr

end Url

/-- An address. -/
structure Url where
  scheme : String
  authority : Option Url.Authority
  path : Url.Path
  query : Option String
  fragment : Option String
  deriving DecidableEq, Repr

namespace Url

/-- The written form of an authority. -/
def Authority.text (authority : Authority) : String :=
  let password := match authority.password with
    | some password => ":" ++ password
    | none => ""
  let userinfo := authority.username ++ password
  let port := match authority.port with
    | some port => ":" ++ toString port
    | none => ""
  (if userinfo = "" then "" else userinfo ++ "@") ++ authority.host.text ++ port

/-- The written form of a path. -/
def Path.text : Path → String
  | .opaqueText written => written
  | .segments parts => String.join (parts.map fun part => "/" ++ part)

/-- What stands between the scheme and the path. A path that begins with two slashes is kept apart
from the place of an authority. -/
def authorityText (url : Url) : String :=
  match url.authority, url.path with
  | some authority, _ => "//" ++ authority.text
  | none, .segments ("" :: _ :: _) => "/."
  | none, _ => ""

/-- A part of an address behind its mark, if there is one. -/
def marked (mark : String) : Option String → String
  | some text => mark ++ text
  | none => ""

/-- The written form of an address. -/
def text (url : Url) : String :=
  url.scheme ++ ":" ++ url.authorityText ++ url.path.text ++ marked "?" url.query ++
    marked "#" url.fragment

/-- The address of `name` beside the last segment of the path, without query and fragment. -/
def join? (url : Url) (name : String) : Option Url :=
  match url.path with
  | .segments segments =>
    some { url with
      path := .segments (segments.dropLast ++ [name])
      query := none
      fragment := none }
  | .opaqueText _ => none

end Url

end Holdout
