import Holdout.Model.Engine
import Holdout.Model.Graph
import Holdout.Model.Hint

/-!
# Drafts of models

A model as it is written down: values with what is said of them, and a body that says how
they are made of each other. Before a draft is typed, the leading sizes of its inputs are
pinned, whatever its body is.

Here a body has constants and nodes in any order, and operators that may not be known. Such a
draft becomes a graph when the hints of all nodes have been followed: then all inputs have to
be known, and of the nodes only those count that an output needs.
-/

namespace Holdout

/-- A constant of a draft. The tensor is missing if it is of a kind of which none is at hand. -/
structure DraftConstant where
  name : String
  place : Nat
  fact : TensorFact
  tensor : Option Tensor

/-- A node of a draft; none stands for an operator that is not known. -/
structure DraftNode where
  name : String
  operator : Option Operator
  arguments : List Nat
  results : List Nat

/-- A model as it is written down, with all of its body but the values. These are named by their places
among the hints. -/
structure Draft (β : Type) where
  hints : Array Hint
  inputs : List (String × Nat)
  body : β

/-- How the values of a draft are made, and which of them are its outputs. -/
structure DraftBody where
  constants : List DraftConstant
  nodes : List DraftNode
  outputs : List GraphOutput

namespace Draft

/-- What is known of the value at a place. -/
def hintAt (hints : Array Hint) (place : Nat) : Hint := hints.getD place .nothing

/-- The hints with more hints for some places. -/
def mergeAt (hints : Array Hint) (entries : List (Nat × Hint)) : Except Failure (Array Hint) :=
  entries.foldlM (fun hints (place, hint) => do
    return hints.setIfInBounds place (← orUnsound ((hintAt hints place).merge? hint))) hints

/-- The hints with what one node tells. A known operator has a single result. -/
def follow (hints : Array Hint) (node : DraftNode) : Except Failure (Array Hint) :=
  match node.operator, node.results with
  | none, _ => .ok hints
  | some operator, [place] => do
    let (arguments, result) ←
      operator.tell (node.arguments.map (hintAt hints)) (hintAt hints place)
    mergeAt hints ((place, result) :: node.arguments.zip arguments)
  | some _, _ => .error (.within .engine)

/-- The hints with what all nodes tell, over and over until nothing is new. -/
def followAll (nodes : List DraftNode) : Nat → Array Hint → Except Failure (Array Hint)
  | 0, hints => .ok hints
  | fuel + 1, hints => do
    let more ← nodes.foldlM follow hints
    if more = hints then return hints else followAll nodes fuel more

/-- The largest number of directions of which something is known. -/
def rank (hints : Array Hint) : Nat :=
  hints.foldl (fun rank hint => max rank ((hint.dims.getD []).length)) 2

/-- The draft with the leading sizes of its inputs pinned. -/
def pinned (draft : Draft β) : Draft β :=
  { draft with hints := draft.inputs.foldl (fun hints (_, place) =>
      hints.setIfInBounds place (hintAt hints place).pinned) draft.hints }

/-- All that follows from the hints. In each round but the last something new is learned of the kind,
the directions or a size of some value. -/
def deduced (draft : Draft DraftBody) : Except Failure (Array Hint) := do
  let given ← mergeAt draft.hints
    (draft.body.constants.map fun constant => (constant.place, .ofFact constant.fact))
  followAll draft.body.nodes (given.size * (rank given + 3) + 1) given

/-- Places with those that they are made from, so many steps back. -/
def reach (nodes : List DraftNode) : Nat → List Nat → List Nat
  | 0, places => places
  | steps + 1, places =>
    let more := (nodes.filter fun node => node.results.any places.contains).flatMap
      DraftNode.arguments
    reach nodes steps (places ++ more).eraseDups

/-- The places that outputs need. -/
def needed (body : DraftBody) : List Nat :=
  reach body.nodes body.nodes.length (body.outputs.map GraphOutput.place)

/-- Nodes in an order in which arguments come first; none if they need each other. -/
def inOrder? : Nat → List Nat → List DraftNode → Option (List DraftNode)
  | _, _, [] => some []
  | 0, _, _ => none
  | fuel + 1, ready, nodes => do
    let (first, later) := nodes.partition fun node => node.arguments.all ready.contains
    let later ← inOrder? fuel (ready ++ first.flatMap DraftNode.results) later
    return first ++ later

/-- The inputs, if nothing is missing in what is known of them. A size below zero breaks down. -/
def knownInputs (draft : Draft β) (hints : Array Hint) : Except Failure (List ModelInput) := do
  let inputs ← orUnsound (draft.inputs.mapM fun (name, place) => do
    return (⟨name, ← (hintAt hints place).fact?⟩ : ModelInput))
  if inputs.any fun input => input.fact.isAbsurd then throw .breakdown
  return inputs

/-- The graph of a draft. -/
def graph (draft : Draft DraftBody) : Except Failure Graph := do
  let body := draft.body
  let inputs ← draft.knownInputs (← draft.deduced)
  let needed := needed body
  let constants := body.constants.filter fun constant => needed.contains constant.place
  let given := draft.inputs.map Prod.snd ++ constants.map DraftConstant.place
  let used := body.nodes.filter fun node => node.results.any needed.contains
  let nodes ← orUnsound (inOrder? (used.length + 1) given used)
  let names := inputs.map ModelInput.name ++ constants.map DraftConstant.name ++
    nodes.map DraftNode.name
  if names.eraseDups.length ≠ names.length then throw (.within .engine)
  let places := given ++ nodes.flatMap DraftNode.results
  let placeOf? (place : Nat) : Option Nat := places.findIdx? (· = place)
  let tensors ← orUnsound (constants.mapM DraftConstant.tensor)
  let nodes ← orUnsound (nodes.mapM fun node => do
    return (⟨← node.operator, ← node.arguments.mapM placeOf?⟩ : GraphNode))
  let outputs ← orUnsound (body.outputs.mapM fun output => do
    return (⟨output.name, ← placeOf? output.place⟩ : GraphOutput))
  return ⟨inputs, tensors, nodes, outputs⟩

/-- The typed model of a draft whose nodes are followed. -/
def typed (draft : Draft DraftBody) : Except Failure TypedModel := do (← draft.graph).typed

/-- The typed model of a draft whose body is a graph, with inputs as the hints tell them. -/
def typedAsSaid (draft : Draft Graph) : Except Failure TypedModel := do
  let inputs ← draft.knownInputs draft.hints
  { draft.body with inputs := inputs }.typed

end Draft

/-- A graph as a draft that says all of its inputs. -/
def Graph.draft (graph : Graph) : Draft Graph where
  hints := (graph.inputs.map fun input => .ofFact input.fact).toArray
  inputs := (graph.inputs.map ModelInput.name).zipIdx
  body := graph

namespace Model

/-- Prepare a draft for a batch of one, where it leaves the size of a batch open. Any function may
type it. -/
def ofDraft (type : Draft β → Except Failure TypedModel) (draft : Draft β) :
    Logged (Except Failure Model) :=
  prepare (type draft.pinned)

/-- Prepare a graph as it is. -/
def ofGraph (graph : Graph) : Logged (Except Failure Model) := prepare graph.typed

/-- Prepare a graph for a batch of one, where it leaves the size of a batch open. -/
def ofOpenGraph (graph : Graph) : Logged (Except Failure Model) :=
  ofDraft Draft.typedAsSaid graph.draft

end Model

end Holdout
