import Holdout.Dataset
import Holdout.Text.Decimal
import Holdout.Word

/-!
# Reading arguments

A command takes options by their names and other arguments by their order. An option may
have a letter of its own, and its value may follow after an equals sign; what comes after
two dashes is never an option. Arguments are checked when the next one begins, so that
the first fault from the left is reported; an unknown argument comes before one that is
still being read.
-/

namespace Holdout
namespace Command

/-- Why arguments cannot be used as they are, or are not meant to be. -/
inductive UsageError
  | invalidSubcommand
  | unknownArgument
  | invalidValue
  | refusedValue
  | tooManyValues
  | missingArgument
  | repeatedArgument
  | helpWanted
  | nothingGiven
  deriving DecidableEq, Repr

namespace UsageError

/-- The arguments are usable, but ask for something else than a command. -/
def isWish : UsageError → Bool
  | .helpWanted => true
  | _ => false

/-- The words for arguments that cannot be used. -/
def message : UsageError → String
  | .invalidSubcommand => "error: there is no such command"
  | .unknownArgument => "error: an argument was not expected"
  | .invalidValue => "error: an argument has no value, or one that is not in its list"
  | .refusedValue => "error: the value of an argument cannot be read"
  | .tooManyValues => "error: an argument takes no value"
  | .missingArgument => "error: an argument is missing"
  | .repeatedArgument => "error: an argument was given twice"
  | .helpWanted | .nothingGiven =>
    "usage: holdout <api MODEL | stream SET | eval MODEL | classify MODEL LABELS IMAGE...>"

end UsageError

/-- How results are printed. -/
inductive OutputLayout
  | text
  | json
  deriving DecidableEq, Repr

/-- The layout of a name. -/
def OutputLayout.ofName? : String → Option OutputLayout
  | "text" => some .text
  | "json" => some .json
  | _ => none

/-- What the value of an argument has to be. -/
inductive ValueKind
  | text
  | path
  | count
  | dataset
  | layout
  deriving DecidableEq, Repr

/-- Read a number of 64 bits. -/
def readCount? (value : String) : Option Nat := Text.naturalBelow? Word.limit value.toList

/-- Check a value. -/
def ValueKind.check (kind : ValueKind) (value : String) : Except UsageError Unit :=
  match kind with
  | .text => .ok ()
  | .path => if value = "" then .error .invalidValue else .ok ()
  | .count => if (readCount? value).isSome then .ok () else .error .refusedValue
  | .dataset => if (SetKind.ofName? value).isSome then .ok () else .error .refusedValue
  | .layout => if (OutputLayout.ofName? value).isSome then .ok () else .error .invalidValue

/-- An argument that is given by its name. -/
structure NamedArgument where
  name : String
  letter : Option Char
  /-- The kind of its value, if it takes one. -/
  value : Option ValueKind
  deriving DecidableEq, Repr

/-- An argument that is given by its place. -/
structure PlacedArgument where
  name : String
  kind : ValueKind
  /-- All further arguments belong to it, too. -/
  repeats : Bool
  deriving DecidableEq, Repr

/-- The arguments of a command. -/
structure Grammar where
  named : List NamedArgument
  placed : List PlacedArgument
  deriving DecidableEq, Repr

/-- Values by the names of their arguments. -/
abbrev Given := List (String × List String)

namespace Given

/-- The values given for an argument. -/
def values (given : Given) (name : String) : List String :=
  ((given.find? fun entry => entry.1 = name).map Prod.snd).getD []

/-- The value given for an argument. -/
def value? (given : Given) (name : String) : Option String := (given.values name).head?

/-- The argument was given. -/
def has (given : Given) (name : String) : Bool := given.any fun entry => entry.1 = name

end Given

/-- An argument that has been begun and not yet checked. -/
structure Begun where
  name : String
  kind : ValueKind
  values : List String
  /-- The next argument is its value, unless that is an option. -/
  awaiting : Bool
  deriving DecidableEq, Repr

/-- How far arguments have been read. -/
structure Reading where
  given : Given
  begun : Option Begun
  /-- Arguments by place that are still to come. -/
  placed : List PlacedArgument
  /-- Nothing that follows is an option. -/
  trailing : Bool
  deriving DecidableEq, Repr

namespace Reading

/-- Check an argument and take it in. -/
def give (reading : Reading) (begun : Begun) : Except UsageError Reading :=
  if begun.values = [] then .error .invalidValue
  else if reading.given.has begun.name then .error .repeatedArgument
  else do
    begun.values.forM begun.kind.check
    return { reading with given := reading.given ++ [(begun.name, begun.values)] }

/-- Check the argument that has been begun. -/
def settle (reading : Reading) : Except UsageError Reading :=
  match reading.begun with
  | none => .ok reading
  | some begun => give { reading with begun := none } begun

/-- Begin an argument with a name. A value that is attached to it is checked at once. -/
def beginNamed (reading : Reading) (argument : NamedArgument) (attached : Option String) :
    Except UsageError Reading :=
  match argument.value, attached with
  | some kind, some value => do
    let reading ← reading.settle
    reading.give ⟨argument.name, kind, [value], false⟩
  | some kind, none => do
    let reading ← reading.settle
    return { reading with begun := some ⟨argument.name, kind, [], true⟩ }
  | none, some _ => .error .tooManyValues
  | none, none => do
    let reading ← reading.settle
    reading.give ⟨argument.name, .text, [""], false⟩

/-- Ask for help. -/
def wantHelp (reading : Reading) : Except UsageError Reading := do
  let _ ← reading.settle
  throw .helpWanted

/-- Cut a text at its first equals sign. -/
def cutAtEquals (text : List Char) : String × Option String :=
  match text.dropWhile (· ≠ '=') with
  | _ :: value => (String.ofList (text.takeWhile (· ≠ '=')), some (String.ofList value))
  | [] => (String.ofList text, none)

/-- Read what follows two dashes. -/
def readLong (grammar : Grammar) (reading : Reading) (text : List Char) :
    Except UsageError Reading :=
  let (name, attached) := cutAtEquals text
  if name = "help" then
    if attached.isSome then .error .tooManyValues else reading.wantHelp
  else
    match grammar.named.find? fun argument => argument.name = name with
    | some argument => reading.beginNamed argument attached
    | none => .error .unknownArgument

/-- Read what follows one dash. -/
def readShort (grammar : Grammar) (reading : Reading) : List Char → Except UsageError Reading
  | [] => .error .unknownArgument
  | letter :: rest =>
    if letter = 'h' then reading.wantHelp
    else
      match grammar.named.find? fun argument => argument.letter = some letter with
      | none => .error .unknownArgument
      | some argument =>
        match rest with
        | [] => reading.beginNamed argument none
        | '=' :: value => reading.beginNamed argument (some (String.ofList value))
        | value => reading.beginNamed argument (some (String.ofList value))

/-- Read an argument by its place. -/
def readPlaced (reading : Reading) (text : String) : Except UsageError Reading :=
  match reading.placed with
  | [] => .error .unknownArgument
  | argument :: rest =>
    match reading.begun with
    | some begun =>
      if begun.name = argument.name then
        .ok { reading with begun := some { begun with values := begun.values ++ [text] } }
      else beginPlaced argument rest
    | none => beginPlaced argument rest
where
  /-- Begin the next argument by place. -/
  beginPlaced (argument : PlacedArgument) (rest : List PlacedArgument) :
      Except UsageError Reading := do
    let reading ← reading.settle
    return { reading with
      begun := some ⟨argument.name, argument.kind, [text], false⟩
      placed := if argument.repeats then argument :: rest else rest }

/-- Read one argument. -/
def readOne (grammar : Grammar) (reading : Reading) (text : String) : Except UsageError Reading :=
  if reading.trailing then reading.readPlaced text
  else
    match text.toList with
    | ['-', '-'] => .ok { reading with trailing := true }
    | '-' :: '-' :: rest => reading.readLong grammar rest
    | '-' :: letter :: rest => reading.readShort grammar (letter :: rest)
    | _ =>
      match reading.begun with
      | some begun =>
        if begun.awaiting then
          .ok { reading with begun := some { begun with values := [text], awaiting := false } }
        else reading.readPlaced text
      | none => reading.readPlaced text

end Reading

/-- Read the arguments of a command. All arguments by place have to be given. -/
def Grammar.read (grammar : Grammar) (texts : List String) : Except UsageError Given := do
  let reading ← texts.foldlM (Reading.readOne grammar) ⟨[], none, grammar.placed, false⟩
  let reading ← reading.settle
  if grammar.placed.all fun argument => reading.given.has argument.name then return reading.given
  else throw .missingArgument

end Command
end Holdout
