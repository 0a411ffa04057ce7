import Holdout.Model.Operator

/-!
# Hints

What is known so far of a value of a model. Hints of the same value are merged; they may not
contradict each other. An operator tells something of its result by its arguments, and the
other way round.
-/

namespace Holdout

/-- What is known so far of a value: its kind, and its sizes, of which some may be unknown. -/
structure Hint where
  type : Option ValueType
  dims : Option (List Dim)
  deriving DecidableEq, Repr

namespace Hint

/-- Nothing is known. -/
def nothing : Hint := ⟨none, none⟩

/-- All is known. -/
def ofFact (fact : TensorFact) : Hint := ⟨some fact.type, some fact.dims⟩

/-- What two accounts of the same thing say together; none if they contradict each other. -/
def agree? [DecidableEq α] : Option α → Option α → Option (Option α)
  | none, other => some other
  | other, none => some other
  | some first, some second => if first = second then some (some first) else none

/-- What two accounts of a size say together. -/
def mergeDim? : Dim → Dim → Option Dim
  | .unknown, dim => some dim
  | dim, .unknown => some dim
  | first, second => if first = second then some first else none

/-- What two accounts of sizes say together. -/
def mergeDims? : List Dim → List Dim → Option (List Dim)
  | [], [] => some []
  | first :: firsts, second :: seconds => do
    return (← mergeDim? first second) :: (← mergeDims? firsts seconds)
  | _, _ => none

/-- What two hints say together; none if they contradict each other. -/
def merge? (first second : Hint) : Option Hint := do
  let type ← agree? first.type second.type
  match first.dims, second.dims with
  | none, dims => return ⟨type, dims⟩
  | dims, none => return ⟨type, dims⟩
  | some first, some second => return ⟨type, some (← mergeDims? first second)⟩

/-- The sizes, if all of them are known. -/
def sizes? (hint : Hint) : Option (List Dim) :=
  hint.dims.filter fun dims => dims.all (· ≠ .unknown)

/-- What is known, if nothing is missing. -/
def fact? (hint : Hint) : Option TensorFact := do
  return ⟨← hint.type, ← hint.sizes?⟩

/-- The hint for an input with its leading size pinned. -/
def pinned (hint : Hint) : Hint := { hint with dims := hint.dims.map pinLeading }

/-- The sizes of means over directions that are left open, and the other way round. -/
def spatial (other : Dim) : List Dim → Except Failure (List Dim)
  | batch :: channels :: rest => .ok (batch :: channels :: rest.map fun _ => other)
  | _ => .error (.within .engine)

end Hint

namespace Operator

/-- The sizes of the result, once those of all arguments are known. -/
def hintDims (operator : Operator) (arguments : List Hint) : Except Failure (Option (List Dim)) :=
  match arguments.mapM Hint.sizes? with
  | some sizes => (operator.dims sizes).map some
  | none => .ok none

/-- What an operator tells of its arguments and of its result. -/
def tell (operator : Operator) (arguments : List Hint) (result : Hint) :
    Except Failure (List Hint × Hint) :=
  match operator, arguments with
  | .identity, [argument] | .relu, [argument] => .ok ([result], argument)
  | .globalAveragePool, [argument] => do
    let before ← result.dims.mapM (Hint.spatial .unknown)
    let behind ← argument.dims.mapM (Hint.spatial (.fixed 1))
    let means ← result.dims.mapM (Hint.spatial (.fixed 1))
    let dims ← orUnsound (Hint.merge? ⟨argument.type, behind⟩ ⟨none, means⟩)
    return ([⟨result.type, before⟩], dims)
  | .flatten _, [argument] => do
    return ([⟨result.type, none⟩], ⟨argument.type, ← operator.hintDims arguments⟩)
  | .add, [first, second] => do
    let type := if first.type = second.type then first.type else none
    return (arguments, ⟨type, ← operator.hintDims arguments⟩)
  | .matMul, [first, second] => do
    let type ← orUnsound (Hint.agree? first.type second.type)
    let type ← orUnsound (Hint.agree? type result.type)
    return ([⟨type, none⟩, ⟨type, none⟩], ⟨type, ← operator.hintDims arguments⟩)
  | _, _ => .error (.within .engine)

end Operator

end Holdout
