import Holdout.Archive.Samples

/-!
# Handing samples over

The walk over an archive runs beside the one who consumes its samples, and reads one entry
after the other. The two meet at every result: the reader offers one and waits until it is
received, or until the consumer has left. `Move` lists what can happen, in any order the two
sides take turns.
-/

namespace Holdout
namespace Archive

/-- What the reader does when it has no result to hand over. -/
inductive Task
  /-- The sample that is being collected, and the entries to come. -/
  | walk (current : Option Sample) (rest : List Entry)
  | stop

/-- Where the reader stands. -/
inductive Reader
  | doing (task : Task)
  /-- A result has to be sent before the task. -/
  | ready (result : ItemResult) (task : Task)
  /-- The reader waits for its result to be received. -/
  | sending (result : ItemResult) (task : Task)

namespace Reader

/-- The reader after an entry. A failure is sent like a sample, and is the last thing sent. -/
def afterEntry (location : String) (current : Option Sample) (rest : List Entry) :
    Entry → Reader
  | .other => .doing (.walk current rest)
  | .broken => .ready (.error (walkFailure location .readingEntry)) .stop
  | .brokenFile path =>
    match Member.ofPath? path with
    | none => .doing (.walk current rest)
    | some _ => .ready (.error (walkFailure location (.readingMember path))) .stop
  | .file path data =>
    match Member.ofPath? path, current with
    | none, _ => .doing (.walk current rest)
    | some member, none => .doing (.walk (some (member.begin data)) rest)
    | some member, some sample =>
      if sample.key = member.key then
        .doing (.walk (some (member.addTo data sample)) rest)
      else .ready (.ok (.sample sample)) (.walk (some (member.begin data)) rest)

/-- The reader where the archive ends. -/
def atEnd : Option Sample → Reader
  | none => .doing .stop
  | some sample => .ready (.ok (.sample sample)) .stop

end Reader

/-- What happens between the reader and the consumer. -/
inductive Act
  | read (entry : Entry)
  /-- The reader finds that there is no further entry. -/
  | reachEnd
  /-- The reader begins to offer a result. -/
  | send (result : ItemResult)
  | receive (result : ItemResult)
  /-- The reader learns that nobody will receive its result. -/
  | refuse (result : ItemResult)
  /-- The consumer drops the stream. -/
  | leave
  /-- The consumer asks for a result and learns that the reader has stopped. -/
  | hearEnd

/-- The reader and the consumer at one moment. -/
structure Exchange where
  reader : Reader
  /-- The consumer has dropped the stream. -/
  abandoned : Bool

namespace Exchange

/-- Nothing has happened. -/
def start (entries : List Entry) : Exchange := ⟨.doing (.walk none entries), false⟩

/-- A single thing that can happen. Nothing is kept between the two sides, so that receiving is an
act of both. -/
inductive Move (location : String) : Exchange → Act → Exchange → Prop
  | read (current : Option Sample) (entry : Entry) (rest : List Entry) (abandoned : Bool) :
      Move location ⟨.doing (.walk current (entry :: rest)), abandoned⟩ (.read entry)
        ⟨.afterEntry location current rest entry, abandoned⟩
  | reachEnd (current : Option Sample) (abandoned : Bool) :
      Move location ⟨.doing (.walk current []), abandoned⟩ .reachEnd ⟨.atEnd current, abandoned⟩
  | send (result : ItemResult) (task : Task) (abandoned : Bool) :
      Move location ⟨.ready result task, abandoned⟩ (.send result)
        ⟨.sending result task, abandoned⟩
  | receive (result : ItemResult) (task : Task) :
      Move location ⟨.sending result task, false⟩ (.receive result) ⟨.doing task, false⟩
  | refuse (result : ItemResult) (task : Task) :
      Move location ⟨.sending result task, true⟩ (.refuse result) ⟨.doing .stop, true⟩
  | leave (reader : Reader) : Move location ⟨reader, false⟩ .leave ⟨reader, true⟩
  | hearEnd : Move location ⟨.doing .stop, false⟩ .hearEnd ⟨.doing .stop, false⟩

/-- What happens one after the other, from one exchange to another. -/
inductive Leads (location : String) : Exchange → List Act → Exchange → Prop
  | nil (exchange : Exchange) : Leads location exchange [] exchange
  | cons {first middle last : Exchange} {act : Act} {acts : List Act} :
      Move location first act middle → Leads location middle acts last →
        Leads location first (act :: acts) last

end Exchange

end Archive
end Holdout
