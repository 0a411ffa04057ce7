import Holdout.Engine

/-!
# Runs of an engine

What an engine answers to bindings given one after the other, and where it stands then.
-/

namespace Holdout
namespace Engine

/-- The answers to bindings one after the other, and the state that they leave. -/
def runs (engine : Engine ε) : ε → List InputBinding → List (Except Failure Outputs) × ε
  | state, [] => ([], state)
  | state, binding :: rest =>
    let (answer, next) := engine.run state binding
    let (answers, last) := runs engine next rest
    (answer :: answers, last)

@[simp] theorem runs_nil (engine : Engine ε) (state : ε) : engine.runs state [] = ([], state) :=
  rfl

theorem runs_cons (engine : Engine ε) (state : ε) (binding : InputBinding)
    (rest : List InputBinding) :
    engine.runs state (binding :: rest) =
      ((engine.run state binding).1 :: (engine.runs (engine.run state binding).2 rest).1,
        (engine.runs (engine.run state binding).2 rest).2) := rfl

theorem runs_append (engine : Engine ε) (state : ε) (first second : List InputBinding) :
    engine.runs state (first ++ second) =
      ((engine.runs state first).1 ++ (engine.runs (engine.runs state first).2 second).1,
        (engine.runs (engine.runs state first).2 second).2) := by
  induction first generalizing state with
  | nil => rfl
  | cons binding rest inductionHypothesis =>
    rw [List.cons_append, runs_cons, inductionHypothesis, runs_cons]
    rfl

/-- Every binding is answered. -/
theorem length_runs (engine : Engine ε) (state : ε) (bindings : List InputBinding) :
    (engine.runs state bindings).1.length = bindings.length := by
  induction bindings generalizing state with
  | nil => rfl
  | cons binding rest inductionHypothesis =>
    rw [runs_cons, List.length_cons, List.length_cons, inductionHypothesis]

/-- An engine that keeps its bindings answers as it would otherwise, and has kept them all. -/
theorem runs_recording (engine : Engine ε) (state : ε) (given bindings : List InputBinding) :
    engine.recording.runs (state, given) bindings =
      ((engine.runs state bindings).1,
        ((engine.runs state bindings).2, bindings.reverse ++ given)) := by
  induction bindings generalizing state given with
  | nil => rfl
  | cons binding rest inductionHypothesis =>
    have run : engine.recording.run (state, given) binding =
        ((engine.run state binding).1, (engine.run state binding).2, binding :: given) := rfl
    rw [runs_cons, run, inductionHypothesis, runs_cons, List.reverse_cons, List.append_assoc,
      List.singleton_append]

end Engine
end Holdout
