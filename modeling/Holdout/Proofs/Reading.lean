import Holdout.Proofs.RecordStream

/-!
# Passes that agree

A pass over a stream from its beginning, with the reader that is fed. The reader needs finitely
many items and stops behind them, or the pass never ends. Two passes over different streams come to
the same end if what is enough for the one answers to something that is enough for the other.
-/

namespace Holdout

/-- A pass that has not begun, and its reader. -/
structure Reading (τ σ β : Type) where
  source : Source τ σ
  kind : SetKind
  wants : β → Bool
  take : β → RecordResult → Logged β
  /-- Where the stream of items stands. -/
  place : σ
  reader : β

namespace Reading

/-- What the pass comes to, if it ends. -/
def run? (reading : Reading τ σ β) : Option (Logged (β × RecordStream σ)) :=
  RecordStream.feedPulling reading.source reading.wants reading.take
    (RecordStream.new reading.kind reading.place) reading.reader

/-- Where the reader stands after the record results of items. -/
def after (reading : Reading τ σ β) (items : List ItemResult) : β :=
  (RecordStream.feedPending reading.wants reading.take (items.flatMap reading.kind.results)
    reading.reader).value.1

/-- Pulling brings these items, and with them the reader has had enough or there are no others. -/
structure Enough
    (reading : Reading τ σ β)
    (items : List ItemResult)
    (stand : σ) : Prop where
  brings : reading.source.Brings reading.place items stand
  enough : reading.wants (reading.after items) = false ∨ reading.source.Ends stand

/-- The items are enough, and the reader needs each of them. -/
structure Suffices
    (reading : Reading τ σ β)
    (items : List ItemResult)
    (stand : σ) : Prop extends Enough reading items stand where
  needed : ∀ earlier last, items = earlier ++ [last] →
    reading.wants (reading.after earlier) = true

/-- A pass that ends has pulled the items that its reader needs. -/
theorem suffices_of_run?
    {reading : Reading τ σ β}
    {run : Logged (β × RecordStream σ)}
    (ended : reading.run? = some run) :
    ∃ items stand,
      reading.Suffices items stand ∧
      run.value.1 = reading.after items ∧
      RecordStream.Feeds reading.source reading.wants reading.take
        (RecordStream.new reading.kind reading.place) reading.reader items stand run.value := by
  obtain ⟨items, stand, feeds⟩ := RecordStream.feeds_of_feedPulling rfl ended
  exact ⟨items, stand, ⟨⟨feeds.brings, feeds.enough⟩, feeds.needed⟩, feeds.reader_eq, feeds⟩

/-- A pass ends if finitely many items are enough. -/
theorem run?_of_enough
    {reading : Reading τ σ β}
    {items : List ItemResult}
    {stand : σ}
    (enough : reading.Enough items stand) :
    ∃ run, reading.run? = some run ∧ run.value.1 = reading.after items := by
  have brings : reading.source.Brings (RecordStream.new reading.kind reading.place).items items
      stand := enough.brings
  exact RecordStream.feedPulling_of_brings brings reading.reader enough.enough

/-- Two passes come to the same end, or neither ends, if what suffices for either answers to
something that is enough for the other. -/
theorem map_run?_eq
    {one : Reading τ σ β}
    {other : Reading υ ρ γ}
    (shown : β → δ)
    (shownOther : γ → δ)
    (forth : ∀ items stand, one.Suffices items stand →
      ∃ others rest, other.Enough others rest ∧
        shown (one.after items) = shownOther (other.after others))
    (back : ∀ others rest, other.Suffices others rest →
      ∃ items stand, one.Enough items stand ∧
        shown (one.after items) = shownOther (other.after others)) :
    one.run?.map (fun run => shown run.value.1) =
      other.run?.map fun run => shownOther run.value.1 := by
  apply Option.ext
  intro result
  rw [Option.map_eq_some_iff, Option.map_eq_some_iff]
  constructor
  · rintro ⟨run, ended, isResult⟩
    obtain ⟨items, stand, sufficient, reached, -⟩ := suffices_of_run? ended
    obtain ⟨others, rest, enough, same⟩ := forth items stand sufficient
    obtain ⟨otherRun, endedToo, reachedToo⟩ := run?_of_enough enough
    refine ⟨otherRun, endedToo, ?_⟩
    rw [reachedToo, ← same, ← reached, isResult]
  · rintro ⟨run, ended, isResult⟩
    obtain ⟨others, rest, sufficient, reached, -⟩ := suffices_of_run? ended
    obtain ⟨items, stand, enough, same⟩ := back others rest sufficient
    obtain ⟨otherRun, endedToo, reachedToo⟩ := run?_of_enough enough
    refine ⟨otherRun, endedToo, ?_⟩
    rw [reachedToo, same, ← reached, isResult]

/-- The pass over a stream that counts what it is asked and what it brings. -/
def counting (reading : Reading τ σ β) : Reading τ (Source.Counted σ) β :=
  ⟨reading.source.counting, reading.kind, reading.wants, reading.take, ⟨reading.place, 0, 0⟩,
    reading.reader⟩

/-- Counting does not change what a pass comes to. -/
theorem map_run?_counting (reading : Reading τ σ β) (shown : β → δ) :
    reading.run?.map (fun run => shown run.value.1) =
      reading.counting.run?.map fun run => shown run.value.1 := by
  refine map_run?_eq shown shown ?_ ?_
  · intro items stand sufficient
    exact ⟨items, _, ⟨sufficient.brings.counting 0 0, sufficient.enough⟩, rfl⟩
  · intro items rest sufficient
    exact ⟨items, rest.place, ⟨sufficient.brings.of_counting.1, sufficient.enough⟩, rfl⟩

/-- A pass that ends has been brought the items that its reader needs. It has asked for these, and
once more if it has been told that there are no others. -/
theorem counted_of_run?
    {reading : Reading τ σ β}
    {run : Logged (β × RecordStream (Source.Counted σ))}
    (ended : reading.counting.run? = some run) :
    ∃ items stand,
      reading.Suffices items stand ∧
      run.value.1 = reading.after items ∧
      run.value.2.items.brought = items.length ∧
      ((reading.wants (reading.after items) = false ∧
        run.value.2.items.asked = items.length) ∨
      (reading.wants (reading.after items) = true ∧ reading.source.Ends stand ∧
        run.value.2.items.asked = items.length + 1)) := by
  obtain ⟨items, stand, sufficient, reached, feeds⟩ := suffices_of_run? ended
  obtain ⟨brings, asked, brought⟩ := sufficient.brings.of_counting
  have askedSo : stand.asked = items.length := asked.trans (Nat.zero_add _)
  have broughtSo : stand.brought = items.length := brought.trans (Nat.zero_add _)
  refine ⟨items, stand.place, ⟨⟨brings, sufficient.enough⟩, sufficient.needed⟩, reached, ?_⟩
  have stops := feeds.stops
  rw [reached] at stops
  rcases stops with ⟨satisfied, left⟩ | ⟨wanted, ends, left⟩
  · rw [left]
    exact ⟨broughtSo, Or.inl ⟨satisfied, askedSo⟩⟩
  · have none : (reading.source.pull stand.place).value.1 = none := ends
    have pulled : (reading.counting.source.pull stand).value.2 =
        ⟨(reading.source.pull stand.place).value.2, items.length + 1, items.length⟩ := by
      rw [counting, Source.pull_counting, none, askedSo, broughtSo]
      rfl
    rw [left, pulled]
    exact ⟨rfl, Or.inr ⟨wanted, ends, rfl⟩⟩

end Reading
end Holdout
