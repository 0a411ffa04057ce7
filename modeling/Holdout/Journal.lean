import Holdout.Failure
import Holdout.Request

/-!
# The journal of a computation

What happened while a value was computed: the lines a log would show, and the
dealings with a source. `Logged` carries the events in order beside the value.
-/

namespace Holdout

/-- The weight of a log line. -/
inductive Level
  | debug
  | info
  | warn
  deriving DecidableEq, Repr

/-- Something that happened on the way to a result. -/
inductive Event
  | loading (dataset locator : String)
  | opening (format : SourceFormat) (split location : String)
  | counted (records : Nat) (location : String)
  | paging (first last : Nat) (dataset : String)
  | requesting (url : String)
  | evaluated (dataset : String) (count : Nat)
  | modelRead (inputs outputs : List (String × List Nat))
  | recordSkipped (dataset : String) (flaw : Flaw)
  | memberSkipped (path : List UInt8)
  | loadingImage (path : String)
  | inferring
  /-- A document was asked for. -/
  | fetched (location : String)
  /-- A source was asked for a stream. -/
  | opened (request : LoadRequest)
  /-- A stream was asked for an item and had one. -/
  | pulled
  deriving DecidableEq, Repr

/-- Names with shapes, as a list of pairs. -/
def interfaceText (entries : List (String × List Nat)) : String :=
  Text.bracketed (entries.map fun (name, shape) =>
    "(" ++ Text.quoted name ++ ", " ++ Text.numberList shape ++ ")")

/-- The log line of an event, if it has one. -/
def Event.line? : Event → Option (Level × String)
  | .loading dataset locator => some (.info, s!"loading dataset {dataset} from {locator}")
  | .opening format split location =>
    some (.debug, "opening " ++ format.name ++ " split " ++ Text.quoted split ++ " of " ++ location)
  | .counted records location => some (.debug, s!"{records} records in {location}")
  | .paging first last dataset =>
    some (.debug, s!"fetching rows {first}..{last} of {dataset}")
  | .requesting url => some (.debug, "GET " ++ url)
  | .evaluated dataset count => some (.debug, s!"{dataset}: evaluated {count} records")
  | .modelRead inputs outputs =>
    some (.debug, "model inputs: " ++ interfaceText inputs ++ ", outputs: " ++
      interfaceText outputs)
  | .recordSkipped dataset flaw =>
    some (.warn, "skipping malformed record in " ++ dataset ++ ": " ++ flaw.message)
  | .memberSkipped path =>
    some (.warn, "skipping tar member with unreadable name " ++ Text.quotedBytes path)
  | .loadingImage path => some (.info, "loading test image " ++ Text.quoted path)
  | .inferring => some (.info, "performing inference")
  | .fetched _ => none
  | .opened _ => none
  | .pulled => none

/-- A value with the events on the way to it. -/
structure Logged (α : Type) where
  value : α
  events : List Event := []

namespace Logged

/-- First one computation, then the one that its value calls for. -/
def andThen (first : Logged α) (next : α → Logged β) : Logged β :=
  let second := next first.value
  ⟨second.value, first.events ++ second.events⟩

instance : Monad Logged where
  pure value := ⟨value, []⟩
  bind := andThen

/-- Let one thing happen. -/
def note (event : Event) : Logged Unit := ⟨(), [event]⟩

/-- Let things happen in order. -/
def notes (events : List Event) : Logged Unit := ⟨(), events⟩

@[simp] theorem value_pure (value : α) : (pure value : Logged α).value = value := rfl

@[simp] theorem events_pure (value : α) : (pure value : Logged α).events = [] := rfl

@[simp] theorem value_bind (first : Logged α) (next : α → Logged β) :
    (first >>= next).value = (next first.value).value := rfl

@[simp] theorem events_bind (first : Logged α) (next : α → Logged β) :
    (first >>= next).events = first.events ++ (next first.value).events := rfl

end Logged

/-- A computation that need not end: what it comes to, if it does. -/
def Course (α : Type) : Type := Option (Logged α)

namespace Course

/-- What the computation comes to, if it ends. -/
def run? (course : Course α) : Option (Logged α) := course

instance : Monad Course where
  pure value := some (pure value)
  bind first next := first.run?.bind fun before =>
    (next before.value).run?.map fun after => ⟨after.value, before.events ++ after.events⟩

instance : MonadLift Logged Course := ⟨some⟩

@[simp] theorem run?_some (run : Logged α) : run? (some run) = some run := rfl

@[simp] theorem run?_pure (value : α) : (pure value : Course α).run? = some (pure value) := rfl

@[simp] theorem run?_lift (run : Logged α) : run? (liftM run) = some run := rfl

theorem run?_bind (first : Course α) (next : α → Course β) :
    (first >>= next).run? = first.run?.bind fun before =>
      (next before.value).run?.map fun after =>
        ⟨after.value, before.events ++ after.events⟩ := rfl

end Course

end Holdout
