import Holdout.Json.Token

/-!
# JSON trees

The tree of a value before its strings and numbers are read. Values are put together
token by token, on a stack of the arrays and objects that are still open, so trees of
any depth can be read. `Tree.first?` reads one value and leaves the tokens behind it;
`Tree.all?` reads values until no token is left.
-/

namespace Holdout
namespace Json

/-- A value as it is written. -/
inductive Tree
  | null
  | boolean (value : Bool)
  | number (written : List UInt8)
  | string (written : List UInt8)
  | array (items : List Tree)
  | object (fields : List (List UInt8 × Tree))
  deriving Inhabited

/-- An array or object that is still open; its parts are held in reverse. -/
inductive Frame
  | array (before : List Tree)
  | object (before : List (List UInt8 × Tree)) (name : List UInt8)

/-- What may come next inside the innermost open array or object. -/
inductive Expected
  | value
  | firstItem
  | afterItem (before : List Tree)
  | firstName
  | name (before : List (List UInt8 × Tree))
  | colon (before : List (List UInt8 × Tree)) (name : List UInt8)
  | afterField (before : List (List UInt8 × Tree))

/-- A value under way: what is expected next, inside which arrays and objects. -/
structure Unfinished where
  expected : Expected
  outer : List Frame

/-- A value under way, or the finished value. -/
inductive Building
  | ongoing (state : Unfinished)
  | finished (tree : Tree)

/-- Before the first token of a value. -/
def Unfinished.start : Unfinished := ⟨.value, []⟩

/-- Put a finished value where it belongs. -/
def Unfinished.plug (tree : Tree) : List Frame → Building
  | [] => .finished tree
  | .array before :: outer => .ongoing ⟨.afterItem (tree :: before), outer⟩
  | .object before name :: outer => .ongoing ⟨.afterField ((name, tree) :: before), outer⟩

/-- The token begins a value here. -/
def Unfinished.beginValue (outer : List Frame) : Token → Option Building
  | .null => some (plug .null outer)
  | .boolean value => some (plug (.boolean value) outer)
  | .number written => some (plug (.number written) outer)
  | .string written => some (plug (.string written) outer)
  | .openArray => some (.ongoing ⟨.firstItem, outer⟩)
  | .openObject => some (.ongoing ⟨.firstName, outer⟩)
  | _ => none

/-- Take one more token. -/
def Unfinished.step (state : Unfinished) (token : Token) : Option Building :=
  match state.expected, token with
  | .value, token => beginValue state.outer token
  | .firstItem, .closeArray => some (plug (.array []) state.outer)
  | .firstItem, token => beginValue (.array [] :: state.outer) token
  | .afterItem before, .comma => some (.ongoing ⟨.value, .array before :: state.outer⟩)
  | .afterItem before, .closeArray => some (plug (.array before.reverse) state.outer)
  | .firstName, .closeObject => some (plug (.object []) state.outer)
  | .firstName, .string name => some (.ongoing ⟨.colon [] name, state.outer⟩)
  | .name before, .string name => some (.ongoing ⟨.colon before name, state.outer⟩)
  | .colon before name, .colon =>
    some (.ongoing ⟨.value, .object before name :: state.outer⟩)
  | .afterField before, .comma => some (.ongoing ⟨.name before, state.outer⟩)
  | .afterField before, .closeObject => some (plug (.object before.reverse) state.outer)
  | _, _ => none

namespace Tree

/-- The value under way after more tokens, and the tokens behind it. -/
def finish? (state : Unfinished) : List Token → Option (Tree × List Token)
  | [] => none
  | token :: rest =>
    match state.step token with
    | some (.ongoing state) => finish? state rest
    | some (.finished tree) => some (tree, rest)
    | none => none

/-- The first value of the tokens, and the tokens behind it. -/
def first? (tokens : List Token) : Option (Tree × List Token) := finish? .start tokens

/-- The only value of the tokens. -/
def only? (tokens : List Token) : Option Tree :=
  match first? tokens with
  | some (tree, []) => some tree
  | _ => none

/-- All values of the tokens after a value under way, where `before` lists the earlier values in
reverse and `begun` tells that the value under way has tokens. -/
def allFrom (state : Unfinished) (begun : Bool) (before : List Tree) :
    List Token → Option (List Tree)
  | [] => if begun then none else some before.reverse
  | token :: rest =>
    match state.step token with
    | some (.ongoing state) => allFrom state true before rest
    | some (.finished tree) => allFrom .start false (tree :: before) rest
    | none => none

/-- All values of the tokens, one after the other. -/
def all? (tokens : List Token) : Option (List Tree) := allFrom .start false [] tokens

end Tree

end Json
end Holdout
