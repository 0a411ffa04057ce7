import Holdout.Command.Outcome
import Holdout.Cursor
import Holdout.Text.Padding

/-!
# Printing records

The first records of a set, one line each. Records are requested one at a time, so no more
of the source is read than is printed.
-/

namespace Holdout
namespace Command

/-- The line for a record. -/
def recordLine : Record → String
  | .image image =>
    let label := match image.label with
      | some label => s!", class {label}"
      | none => ""
    image.key ++ s!": {image.jpeg.size} bytes" ++ label
  | .question question =>
    Text.quoted question.question ++ s!" ({question.context.length} characters of context)"

/-- Print at most `left` further records, of which the first has the number `index`. -/
def printRecords (source : Source τ σ) : Nat → Nat → Cursor σ → τ → Course Outcome
  | 0, _, _, _ => pure (.lines [])
  | left + 1, index, cursor, memory => do
    let (result, cursor, memory) ← cursor.next source memory
    match result with
    | .ok record => do
      let rest ← printRecords source left (index + 1) cursor memory
      return rest.after (Text.pad .right 6 (toString index) ++ "  " ++ recordLine record)
    | .error .exhausted => return .lines [s!"end of stream after {index} records"]
    | .error error => return .failed (.dataset error)

/-- Print the first records of a set. -/
def streamRecords (set : ValidationSet) (source : Source τ σ) (memory : τ) (count : Nat) :
    Course Outcome := do
  let outcome ← printRecords source count 0 (Cursor.new set) memory
  return outcome.after (set.name ++ " from " ++ set.locator)

end Command
end Holdout
