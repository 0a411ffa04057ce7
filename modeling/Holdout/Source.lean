import Holdout.Item
import Holdout.Journal

/-!
# Sources of items

A source opens streams for load requests, and a stream is asked for its items one at
a time. The source may remember what it was asked before; a stream is nothing but the
place where it stands. It need not come to an end, and one that has told its end may have
further items.
-/

namespace Holdout

/-- An item, or why there is none at this place. -/
abbrev ItemResult := Except Failure Item

/-- A source that remembers a `τ` between requests and whose streams stand at a `σ`. -/
structure Source (τ σ : Type) where
  /-- Open a stream at the first item. -/
  openStream : τ → LoadRequest → Logged (Except Failure σ × τ)
  /-- The next item of a stream, or none at its end. -/
  pull : σ → Logged (Option ItemResult × σ)

namespace Source

/-- The first result of a list and the rest of the list. -/
def popResult : List ItemResult → Option ItemResult × List ItemResult
  | [] => (none, [])
  | result :: rest => (some result, rest)

/-- A source that has the same items for every request. -/
def fixed (items : List Item) : Source Unit (List ItemResult) where
  openStream memory _ := pure (.ok (items.map .ok), memory)
  pull rest := pure (popResult rest)

/-- Take the next result of a list, and write down that an item was pulled if there was one. -/
def pullNoted : List ItemResult → Logged (Option ItemResult × List ItemResult)
  | [] => pure (none, [])
  | result :: rest => do
    Logged.note .pulled
    return (some result, rest)

/-- A source whose opening number `n` has a prepared outcome. It writes down every request and
every item pulled. -/
def scripted (outcome : Nat → Except Failure (List ItemResult)) :
    Source Nat (List ItemResult) where
  openStream count request := do
    Logged.note (.opened request)
    return (outcome count, count + 1)
  pull := pullNoted

end Source

end Holdout
