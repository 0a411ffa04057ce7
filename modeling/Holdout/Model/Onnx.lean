import Holdout.Disk
import Holdout.Model.Formula.Text
import Holdout.Model.Onnx.Constant
import Holdout.Model.Onnx.Layout

/-!
# Models in ONNX

Reading a draft of a model from its ONNX message: inputs with their sizes, constants, nodes
and outputs. Values are named by text there, and get their places here. A name means what
was given to it last; where nothing was given to it yet, what is given to it later.

What is said of outputs is not trusted, but what is said of other values is.
-/

namespace Holdout
namespace Onnx

open Message

/-- What a message says that a value is. -/
inductive Nature
  | unsaid
  | tensor (fields : List Field)
  | other

/-- Read what a value is. Of several accounts the last one counts, with those of tensors before it. -/
def readNature (fields : List Field) : Except Failure Nature := do
  let type := (← orUnsound (message? 2 fields)).getD []
  let accounts := (type.filter fun field => [1, 4, 5, 8, 9].contains field.tag).reverse
  match accounts with
  | [] => return .unsaid
  | last :: _ =>
    if last.tag = 1 then
      let pieces := (accounts.takeWhile fun field => field.tag = 1).reverse
      return .tensor ((← orUnsound (message? 1 pieces)).getD [])
    else return .other

/-- Read a size: a number that is not negative, or a formula unless it is hidden. -/
def readDim (isHidden : String → Bool) (fields : List Field) : Except Failure Dim := do
  let accounts := fields.filter fun field => field.tag = 1 ∨ field.tag = 2
  match accounts.getLast? with
  | none => return .unknown
  | some last =>
    if last.tag = 1 then
      let size := (← orUnsound (number? 1 [last])).getD 0
      return if 0 ≤ size then .fixed size else .unknown
    else
      let text ← orUnsound (text? 2 [last])
      if isHidden text then return .unknown
      match Formula.read text with
      | .ok formula => return .ofFormula formula
      | .error .unreadable => throw (.within .engine)
      | .error .divisionByZero => throw .breakdown

/-- Read what is said of a tensor. -/
def readHint (isHidden : String → Bool) (fields : List Field) : Except Failure Hint := do
  let type ← elementType (← orUnsound (code? 1 fields))
  match ← orUnsound (message? 2 fields) with
  | none => return ⟨some type, none⟩
  | some shape =>
    let dims ← (← orUnsound (messages? 1 shape)).mapM (readDim isHidden)
    return ⟨some type, some dims⟩

/-- A size of this name is not known. -/
def isOpen (name : String) : Bool := name = "?"

/-- A size of this name was not known to the one who wrote it. -/
def isMade (name : String) : Bool := isOpen name ∨ "unk__".toList.isPrefixOf name.toList

/-- Read what is said of an input. -/
def readInput (fields : List Field) : Except Failure Hint := do
  match ← readNature fields with
  | .unsaid => throw .breakdown
  | .other => throw (.within .engine)
  | .tensor fields => readHint isOpen fields

/-- Read what is said of a value on the way; numbers of 64 bits may stand for sizes there. -/
def readRemark (fields : List Field) : Except Failure (Option Hint) := do
  match ← readNature fields with
  | .tensor fields =>
    let hint ← readHint isMade fields
    return some { hint with type := hint.type.filter (· ≠ .numbers .i64) }
  | _ => return none

/-- The code of a setting that holds a whole number. -/
def wholeNumberCode : Int := 2

/-- Read a setting that holds a whole number, by its name. -/
def readSetting (name : String) (fields : List Field) : Except Failure (Option Int) := do
  let settings ← orUnsound (messages? 5 fields)
  let named ← orUnsound (settings.mapM fun setting => do return (← text? 1 setting, setting))
  match named.find? fun entry => entry.1 = name with
  | none => return none
  | some (_, setting) =>
    if (← orUnsound (code? 20 setting)) ≠ wholeNumberCode then throw (.within .engine)
    return some ((← orUnsound (number? 3 setting)).getD 0)

/-- The operator of a name, if it is known. -/
def readOperator (name : String) (fields : List Field) : Except Failure (Option Operator) := do
  match name with
  | "Identity" => return some .identity
  | "Relu" => return some .relu
  | "Add" => return some .add
  | "MatMul" => return some .matMul
  | "GlobalAveragePool" => return some .globalAveragePool
  | "Flatten" => return some (.flatten ((← readSetting "axis" fields).getD 1))
  | _ => return none

/-- A node whose values are still named by text. -/
structure NamedNode where
  name : String
  operator : Option Operator
  arguments : List String
  results : List String

/-- Read a node, of which there are so many inputs, constants and nodes before. -/
def readNode (count : Nat) (fields : List Field) : Except Failure NamedNode := do
  let arguments ← orUnsound (texts? 1 fields)
  let results ← orUnsound (texts? 2 fields)
  let name ← orUnsound (text? 3 fields)
  let operatorName ← orUnsound (text? 4 fields)
  let operator ← readOperator operatorName fields
  let first := results.headD ""
  let made := if first = "" then toString count ++ "-" ++ operatorName else first
  return ⟨if name = "" then made else name, operator, arguments.filter (· ≠ ""),
    results.filter (· ≠ "")⟩

/-- The places of names, the last one given first. -/
abbrev Places := List (String × Nat)

/-- The place of a name. -/
def Places.find? (places : Places) (name : String) : Option Nat :=
  (List.find? (fun entry : String × Nat => entry.1 = name) places).map Prod.snd

/-- Values that have been given places, one after the other. -/
structure Given where
  places : Places
  hints : Array Hint
  inputs : List (String × Nat)
  constants : List DraftConstant

namespace Given

/-- Nothing has a place. -/
def nothing : Given := ⟨[], #[], [], []⟩

/-- One more value. -/
def push (given : Given) (name : String) (hint : Hint) : Given :=
  { given with places := (name, given.hints.size) :: given.places, hints := given.hints.push hint }

/-- One more constant. -/
def constant (given : Given) (constant : DraftConstant) : Given :=
  let place := given.hints.size
  { given.push constant.name .nothing with
    constants := given.constants ++ [{ constant with place := place }] }

/-- One more input. -/
def input (given : Given) (name : String) (hint : Hint) : Given :=
  { given.push name hint with inputs := given.inputs ++ [(name, given.hints.size)] }

/-- Replace what is known of the value of a name. -/
def remark (given : Given) (name : String) (hint : Hint) : Given :=
  match given.places.find? name with
  | some place => { given with hints := given.hints.setIfInBounds place hint }
  | none => given

/-- The values with those of a graph's inputs and constants. An input with the name of a constant is
that constant; other constants come behind the inputs. -/
def take (given : Given) : List (List Field) → List DraftConstant → Except Failure Given
  | [], constants => .ok (constants.foldl Given.constant given)
  | fields :: rest, constants => do
    let name ← orUnsound (text? 1 fields)
    match constants.find? fun constant => constant.name = name with
    | some constant =>
      (given.constant constant).take rest (constants.filter fun constant => constant.name ≠ name)
    | none => (given.input name (← readInput fields)).take rest constants

end Given

/-- Constants of which those with the same name have become one, with the value given last. -/
def lastOnes (constants : List DraftConstant) : List DraftConstant :=
  constants.foldr (fun constant later =>
    if later.any fun other => other.name = constant.name then later else constant :: later) []

/-- Nodes with places for names: those given before, or those given in the end. -/
def place? (final : Places) : Given → List NamedNode → Option (List DraftNode)
  | _, [] => some []
  | given, node :: rest => do
    let arguments ← node.arguments.mapM fun name =>
      given.places.find? name <|> final.find? name
    let start := given.hints.size
    let given := node.results.foldl (fun given name => given.push name .nothing) given
    let nodes ← place? final given rest
    return ⟨node.name, node.operator, arguments,
      (List.range node.results.length).map (start + ·)⟩ :: nodes

/-- Read the draft of a graph. -/
def readGraph (fields : List Field) : Except Failure (Draft DraftBody) := do
  let parts (tag : Nat) : Except Failure (List (List Field)) := orUnsound (messages? tag fields)
  let constants ← (← parts 5).mapM readConstant
  let given ← Given.nothing.take (← parts 11) (lastOnes constants)
  let nodes ← ((← parts 1).zipIdx given.hints.size).mapM fun (node, count) => readNode count node
  let all := nodes.foldl (fun given node =>
    node.results.foldl (fun given name => given.push name .nothing) given) given
  let outputs ← (← parts 12).mapM fun output => do
    let name ← orUnsound (text? 1 output)
    match all.places.find? name with
    | some place => return (⟨name, place⟩ : GraphOutput)
    | none => throw .breakdown
  let all := outputs.foldl (fun given output => given.remark output.name .nothing) all
  let all ← (← parts 13).foldlM (fun given value => do
    let name ← orUnsound (text? 1 value)
    if (given.places.find? name).isNone then return given
    match ← readRemark value with
    | some hint => return given.remark name hint
    | none => return given) all
  let nodes ← orUnsound (place? all.places given nodes)
  return ⟨all.hints, all.inputs, all.constants, nodes, outputs⟩

/-- Read the draft of a model: the graph in its message. -/
def readModel (bytes : List UInt8) : Except Failure (Draft DraftBody) := do
  if !isSound bytes then throw (.within .engine)
  let fields ← orUnsound (read? bytes)
  readGraph (← orUnsound ((message? 7 fields).bind id))

/-- Read a model and prepare it for a batch of one. -/
def load (body : Body) : Logged (Except Failure Model) :=
  match (orUnsound body.readAll?).bind fun bytes => readModel bytes.toList with
  | .error failure => pure (.error (.during .parsingModel failure))
  | .ok draft => Model.ofDraft Draft.typed draft

/-- Read the model at a path. -/
def loadPath (disk : Disk) (path : List UInt8) : Logged (Except Failure Model) :=
  match disk.open? path with
  | none => pure (.error (.during (.openingPath path) (.within .io)))
  | some body => load body

end Onnx
end Holdout
