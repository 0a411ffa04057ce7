import Holdout.Dataset

/-!
# Record streams

A single pass over the records of an opened set. `RecordStream.feed` hands results to
a reader for as long as the reader wants more: an item is pulled from the source only
when all results of the items before it have been handed over. Once the items have
ended the stream is exhausted, and the source is never asked again. A stream without end
may keep a reader busy forever.
-/

namespace Holdout

/-- Where a record stream is in its pass. -/
inductive StreamState
  | streaming
  | exhausted
  deriving DecidableEq, Repr

/-- The word for a state. -/
def StreamState.name : StreamState → String
  | .streaming => "Streaming"
  | .exhausted => "Exhausted"

/-- A pass over the records of a set, on a stream of items that stands at a `σ`. -/
structure RecordStream (σ : Type) where
  kind : SetKind
  items : σ
  /-- Results of the last item pulled that have not been handed over. -/
  pending : List RecordResult
  state : StreamState

namespace RecordStream

/-- A pass that has not begun. -/
def new (kind : SetKind) (items : σ) : RecordStream σ := ⟨kind, items, [], .streaming⟩

/-- The stream as it is shown for inspection. -/
def shown (stream : RecordStream σ) : String :=
  "RecordStream \x7b state: " ++ stream.state.name ++ ", .. \x7d"

/-- Hand results over one by one while the reader wants more, and keep the others. -/
def feedPending (wants : β → Bool) (take : β → RecordResult → Logged β) :
    List RecordResult → β → Logged (β × List RecordResult)
  | [], reader => pure (reader, [])
  | result :: rest, reader =>
    if wants reader then do
      let reader ← take reader result
      feedPending wants take rest reader
    else pure (reader, result :: rest)

/-- Hand over what is pending, and then the results of one further item after the other. -/
def feedPulling (source : Source τ σ) (wants : β → Bool) (take : β → RecordResult → Logged β)
    (stream : RecordStream σ) (reader : β) : Option (Logged (β × RecordStream σ)) :=
  let handed := feedPending wants take stream.pending reader
  if wants handed.value.1 then
    let pulled := source.pull stream.items
    match pulled.value with
    | (none, items) =>
      some ⟨(handed.value.1, ⟨stream.kind, items, [], .exhausted⟩),
        handed.events ++ pulled.events⟩
    | (some item, items) => do
      let fed ← RecordStream.mk stream.kind items (stream.kind.results item) .streaming
        |>.feedPulling source wants take handed.value.1
      return ⟨fed.value, handed.events ++ pulled.events ++ fed.events⟩
  else some ⟨(handed.value.1, { stream with pending := handed.value.2 }), handed.events⟩
partial_fixpoint

/-- Hand results over until the reader wants no more or the stream ends. -/
def feed (source : Source τ σ) (wants : β → Bool) (take : β → RecordResult → Logged β)
    (stream : RecordStream σ) (reader : β) : Course (β × RecordStream σ) :=
  match stream.state with
  | .exhausted => pure (reader, stream)
  | .streaming => feedPulling source wants take stream reader

/-- The next result, or none at the end and ever after. -/
def next? (source : Source τ σ) (stream : RecordStream σ) :
    Course (Option RecordResult × RecordStream σ) :=
  stream.feed source Option.isNone (fun _ result => pure (some result)) none

/-- The next record; the end of the stream is an error, too. -/
def next (source : Source τ σ) (stream : RecordStream σ) :
    Course (RecordResult × RecordStream σ) := do
  let (result, stream) ← stream.next? source
  return (result.getD (.error .exhausted), stream)

/-- The next result for one who walks over the records, for whom the error that tells the end of the
stream is the end of the walk. -/
def iterate (source : Source τ σ) (stream : RecordStream σ) :
    Course (Option RecordResult × RecordStream σ) := do
  let (result, stream) ← stream.next source
  match result with
  | .error .exhausted => return (none, stream)
  | result => return (some result, stream)

/-- All results up to the end or to the first error after which `stops` asks for no more. -/
def collect (source : Source τ σ) (stops : DatasetError → Bool) (stream : RecordStream σ) :
    Course (List RecordResult × RecordStream σ) := do
  let wants : List RecordResult → Bool
    | .error error :: _ => !stops error
    | _ => true
  let (taken, stream) ← stream.feed source wants (fun taken result => pure (result :: taken)) []
  return (taken.reverse, stream)

end RecordStream

namespace ValidationSet

/-- Open a pass over the set. A source that does not open is reported and not asked again. -/
def openWith (set : ValidationSet) (source : Source τ σ) (memory : τ) :
    Logged (Except DatasetError (RecordStream σ) × τ) := do
  Logged.note (.loading set.name set.locator)
  let (opened, memory) ← source.openStream memory set.request
  match opened with
  | .ok items => return (.ok (RecordStream.new set.kind items), memory)
  | .error cause => return (.error (.sourceUnavailable set.locator cause), memory)

end ValidationSet

end Holdout
