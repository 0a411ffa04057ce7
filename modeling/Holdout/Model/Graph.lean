import Holdout.Model.Arithmetic
import Holdout.Model.Typed

/-!
# Graphs

A model is a list of operators, each of which takes values from before it: inputs,
constants and the results of earlier operators. Values are named by their places in that
order. Symbols in the sizes of inputs stand for the same number in every input of a run.

What is known of all values before a run is `Graph.facts`, and the results are `Graph.run?`.
-/

namespace Holdout

/-- An operator with the places of its arguments. -/
structure GraphNode where
  operator : Operator
  arguments : List Nat
  deriving DecidableEq, Repr

/-- An output of a model: a value under a name. -/
structure GraphOutput where
  name : String
  place : Nat
  deriving DecidableEq, Repr

/-- A model. -/
structure Graph where
  inputs : List ModelInput
  constants : List Tensor
  nodes : List GraphNode
  outputs : List GraphOutput
  deriving DecidableEq

namespace Graph

/-- The label of the value at a place: of several labels the last one counts. -/
def lastLabel? (labels : List (Nat × Option String)) (place : Nat) : Option String :=
  (labels.filterMap fun (other, label) => if other = place then label else none).getLast?

/-- The model that gives inputs as they are, in some order. An output without a label has the name of
the input. -/
def passThrough (inputs : List ModelInput) (outputs : List (Nat × Option String)) : Graph where
  inputs := inputs
  constants := []
  nodes := []
  outputs := outputs.map fun (place, _) =>
    let name := (inputs[place]?.map ModelInput.name).getD ""
    ⟨(lastLabel? outputs place).getD name, place⟩

/-- All values of a graph, from those before its nodes and the result of one operator. -/
def values (result : Operator → List α → Except Failure α) (nodes : List GraphNode)
    (given : Array α) : Except Failure (Array α) :=
  nodes.foldlM (fun values node => do
    let arguments ← orUnsound (node.arguments.mapM fun place => values[place]?)
    return values.push (← result node.operator arguments)) given

/-- What is known of all values before the model runs. A size below zero breaks down. -/
def facts (graph : Graph) : Except Failure (Array TensorFact) := do
  if graph.inputs.any fun input => input.fact.isAbsurd then throw .breakdown
  values Operator.infer graph.nodes
    (graph.inputs.map ModelInput.fact ++ graph.constants.map TensorFact.ofTensor).toArray

/-- What sizes tell of the symbols in their formulas, one direction after the other; none if a size is
another than it has to be. -/
def learnDims? (meaning : Formula.Meaning) : List Dim → List Nat → Option Formula.Meaning
  | [], [] => some meaning
  | dim :: dims, size :: shape => do
    let meaning ← match dim.formula? with
      | some formula => formula.learn? meaning size
      | none => some meaning
    learnDims? meaning dims shape
  | _, _ => none

/-- The sizes are those that the formulas give, as far as the meanings of symbols tell. -/
def allowsShape (meaning : Formula.Meaning) (dims : List Dim) (shape : List Nat) : Bool :=
  (dims.zip shape).all fun (dim, size) =>
    match dim.formula? with
    | some formula => formula.allows meaning size
    | none => true

/-- What tensors that are given for inputs tell of symbols. -/
def matchInputs? (meaning : Formula.Meaning) :
    List ModelInput → List Tensor → Option Formula.Meaning
  | [], [] => some meaning
  | input :: inputs, tensor :: tensors =>
    if input.fact.type = .numbers tensor.type then do
      let meaning ← learnDims? meaning input.fact.dims tensor.shape
      if allowsShape meaning input.fact.dims tensor.shape then matchInputs? meaning inputs tensors
      else none
    else none
  | _, _ => none

/-- Run the model on tensors for its inputs. -/
def run? (graph : Graph) (tensors : List Tensor) : Option (List Tensor) := do
  let _ ← matchInputs? [] graph.inputs tensors
  let values ← (values (fun operator arguments => orUnsound (operator.result? arguments))
    graph.nodes (tensors ++ graph.constants).toArray).toOption
  graph.outputs.mapM fun output => values[output.place]?

theorem length_of_mapM {read : α → Option β} {values : List α} {results : List β}
    (made : values.mapM read = some results) : results.length = values.length := by
  induction values generalizing results with
  | nil =>
    rw [← Option.some.inj made]
    rfl
  | cons value rest inductionHypothesis =>
    simp only [List.mapM_cons, Option.bind_eq_bind, Option.bind_eq_some_iff] at made
    obtain ⟨result, -, others, areMade, same⟩ := made
    rw [← Option.some.inj same, List.length_cons, List.length_cons, inductionHypothesis areMade]

theorem length_of_run? {graph : Graph} {tensors results : List Tensor}
    (made : graph.run? tensors = some results) : results.length = graph.outputs.length := by
  simp only [run?, Option.bind_eq_bind, Option.bind_eq_some_iff] at made
  obtain ⟨-, -, values, -, made⟩ := made
  exact length_of_mapM made

/-- The typed model of a graph. -/
def typed (graph : Graph) : Except Failure TypedModel := do
  let facts ← graph.facts
  match known : graph.outputs.mapM fun output => facts[output.place]?.map (output.name, ·) with
  | none => throw (.within .engine)
  | some outputs => return {
      inputs := graph.inputs
      outputs := outputs
      run? := graph.run?
      length_of_run? := fun made => (length_of_run? made).trans (length_of_mapM known).symm }

end Graph

end Holdout
