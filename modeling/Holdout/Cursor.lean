import Holdout.RecordStream

/-!
# Cursors

A cursor opens its set at the first request for a record, stays at the end of the
pass once it has been reached, and begins a new pass only after a reset.
-/

namespace Holdout

/-- Where a cursor is. -/
inductive CursorState
  | uninitialized
  | streaming
  | exhausted
  deriving DecidableEq, Repr

/-- The word for a state. -/
def CursorState.name : CursorState → String
  | .uninitialized => "Uninitialized"
  | .streaming => "Streaming"
  | .exhausted => "Exhausted"

/-- A set with the pass that is under way, if one is. -/
structure Cursor (σ : Type) where
  set : ValidationSet
  stream : Option (RecordStream σ)

namespace Cursor

/-- A cursor that has not opened its set. -/
def new (set : ValidationSet) : Cursor σ := ⟨set, none⟩

/-- The state of the cursor is that of its pass. -/
def state (cursor : Cursor σ) : CursorState :=
  match cursor.stream with
  | none => .uninitialized
  | some stream =>
    match stream.state with
    | .streaming => .streaming
    | .exhausted => .exhausted

/-- The pass under way, or a new one. -/
def enter (source : Source τ σ) (memory : τ) (cursor : Cursor σ) :
    Logged (Except DatasetError (RecordStream σ) × τ) :=
  match cursor.stream with
  | some stream => pure (.ok stream, memory)
  | none => cursor.set.openWith source memory

/-- The next record, from a pass that is opened if none is under way. -/
def next (source : Source τ σ) (memory : τ) (cursor : Cursor σ) :
    Course (RecordResult × Cursor σ × τ) := do
  let (entered, memory) ← cursor.enter source memory
  match entered with
  | .error error => return (.error error, { cursor with stream := none }, memory)
  | .ok stream =>
    let (result, stream) ← stream.next source
    return (result, { cursor with stream := some stream }, memory)

/-- All records up to the end of the pass, with the error that says so. -/
def drain (source : Source τ σ) (memory : τ) (cursor : Cursor σ) :
    Course (List RecordResult × Cursor σ × τ) := do
  let (entered, memory) ← cursor.enter source memory
  match entered with
  | .error error => return ([.error error], { cursor with stream := none }, memory)
  | .ok stream =>
    let (results, stream) ← stream.collect source (fun _ => false)
    return (results ++ [.error .exhausted], { cursor with stream := some stream }, memory)

/-- Drop the pass under way. -/
def reset (cursor : Cursor σ) : Cursor σ := { cursor with stream := none }

end Cursor

end Holdout
