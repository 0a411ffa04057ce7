import Holdout.Proofs.Source
import Holdout.RecordStream

/-!
# What a reader is handed

Feeding a reader hands it the record results of the items one by one. When feeding comes to
an end, the reader stands where it would stand after a list of results, the source has been
asked for exactly the items that the reader needed, and nothing is lost between the two.
-/

namespace Holdout
namespace RecordStream

variable {source : Source τ σ} {wants : β → Bool} {take : β → RecordResult → Logged β}

theorem feedPending_cons_of_wants
    {reader : β}
    (wanted : wants reader = true)
    (result : RecordResult)
    (rest : List RecordResult) :
    (feedPending wants take (result :: rest) reader).value =
      (feedPending wants take rest (take reader result).value).value := by
  rw [feedPending, if_pos wanted]
  rfl

/-- A reader that wants nothing more is handed nothing. -/
theorem feedPending_of_satisfied
    {reader : β}
    (satisfied : wants reader = false)
    (results : List RecordResult) :
    (feedPending wants take results reader).value = (reader, results) := by
  cases results with
  | nil => rfl
  | cons result rest =>
    rw [feedPending, satisfied]
    rfl

/-- The second part of the results is handed over if the first part leaves the reader wanting. -/
theorem feedPending_append (first second : List RecordResult) (reader : β) :
    (feedPending wants take (first ++ second) reader).value =
      if wants (feedPending wants take first reader).value.1 then
        (feedPending wants take second (feedPending wants take first reader).value.1).value
      else ((feedPending wants take first reader).value.1,
        (feedPending wants take first reader).value.2 ++ second) := by
  induction first generalizing reader with
  | nil =>
    rw [List.nil_append]
    by_cases wanted : wants reader = true
    · exact (if_pos wanted).symm
    · rw [Bool.not_eq_true] at wanted
      rw [feedPending_of_satisfied wanted, feedPending_of_satisfied wanted, wanted]
      rfl
  | cons result rest inductionHypothesis =>
    by_cases wanted : wants reader = true
    · rw [List.cons_append, feedPending_cons_of_wants wanted, feedPending_cons_of_wants wanted,
        inductionHypothesis]
    · rw [Bool.not_eq_true] at wanted
      rw [feedPending_of_satisfied wanted, feedPending_of_satisfied wanted, wanted]
      rfl

/-- Where the reader stands after what is pending and the results of further items, and the
results that are kept for later. -/
def handed
    (wants : β → Bool)
    (take : β → RecordResult → Logged β)
    (stream : RecordStream σ)
    (reader : β)
    (items : List ItemResult) : β × List RecordResult :=
  (feedPending wants take (stream.pending ++ items.flatMap stream.kind.results) reader).value

@[simp] theorem handed_nil (stream : RecordStream σ) (reader : β) :
    handed wants take stream reader [] =
      (feedPending wants take stream.pending reader).value := by
  rw [handed, List.flatMap_nil, List.append_nil]

theorem handed_new (kind : SetKind) (place : σ) (reader : β) (items : List ItemResult) :
    handed wants take (RecordStream.new kind place) reader items =
      (feedPending wants take (items.flatMap kind.results) reader).value := rfl

/-- Pulling an item makes its results pending. -/
theorem handed_cons
    {stream : RecordStream σ}
    {reader : β}
    (wanted : wants (feedPending wants take stream.pending reader).value.1 = true)
    (item : ItemResult)
    (items : List ItemResult)
    (next : σ) :
    handed wants take stream reader (item :: items) =
      handed wants take ⟨stream.kind, next, stream.kind.results item, .streaming⟩
        (feedPending wants take stream.pending reader).value.1 items := by
  rw [handed, List.flatMap_cons, feedPending_append, if_pos wanted]
  rfl

/-- A reader that is satisfied stays where it is, whatever the items behind. -/
theorem handed_append_of_satisfied
    {stream : RecordStream σ}
    {reader : β}
    {items : List ItemResult}
    (satisfied : wants (handed wants take stream reader items).1 = false)
    (more : List ItemResult) :
    (handed wants take stream reader (items ++ more)).1 =
      (handed wants take stream reader items).1 := by
  rw [handed, List.flatMap_append, ← List.append_assoc, feedPending_append]
  rw [handed] at satisfied ⊢
  rw [satisfied]
  rfl

/-- What feeding comes to when it has pulled these items and left the source at a place. -/
structure Feeds
    (source : Source τ σ)
    (wants : β → Bool)
    (take : β → RecordResult → Logged β)
    (stream : RecordStream σ)
    (reader : β)
    (items : List ItemResult)
    (stand : σ)
    (outcome : β × RecordStream σ) : Prop where
  brings : source.Brings stream.items items stand
  /-- No item is pulled for a reader that wants nothing more. -/
  needed : ∀ earlier last, items = earlier ++ [last] →
    wants (handed wants take stream reader earlier).1 = true
  reader_eq : outcome.1 = (handed wants take stream reader items).1
  /-- Feeding ends with the reader satisfied, or at the end of the stream. -/
  stops :
    (wants outcome.1 = false ∧
      outcome.2 = ⟨stream.kind, stand, (handed wants take stream reader items).2,
        .streaming⟩) ∨
    (wants outcome.1 = true ∧ source.Ends stand ∧
      outcome.2 = ⟨stream.kind, (source.pull stand).value.2, [], .exhausted⟩)

/-- The reader is satisfied before anything is pulled. -/
theorem feeds_of_satisfied
    {stream : RecordStream σ}
    {reader : β}
    (streaming : stream.state = .streaming)
    (satisfied : wants (feedPending wants take stream.pending reader).value.1 = false) :
    Feeds source wants take stream reader [] stream.items
      ((feedPending wants take stream.pending reader).value.1,
        { stream with pending := (feedPending wants take stream.pending reader).value.2 }) where
  brings := .nothing _
  needed earlier last none := by simp at none
  reader_eq := by rw [handed_nil]
  stops := Or.inl ⟨satisfied, by rw [handed_nil, streaming]⟩

/-- The stream ends before the reader is satisfied. -/
theorem feeds_of_ends
    {stream : RecordStream σ}
    {reader : β}
    (wanted : wants (feedPending wants take stream.pending reader).value.1 = true)
    (ends : source.Ends stream.items) :
    Feeds source wants take stream reader [] stream.items
      ((feedPending wants take stream.pending reader).value.1,
        ⟨stream.kind, (source.pull stream.items).value.2, [], .exhausted⟩) where
  brings := .nothing _
  needed earlier last none := by simp at none
  reader_eq := by rw [handed_nil]
  stops := Or.inr ⟨wanted, ends, rfl⟩

/-- An item is pulled, and feeding goes on with its results. -/
theorem Feeds.pulled
    {stream : RecordStream σ}
    {reader : β}
    (wanted : wants (feedPending wants take stream.pending reader).value.1 = true)
    {item : ItemResult}
    {next : σ}
    (pulled : (source.pull stream.items).value = (some item, next))
    {items : List ItemResult}
    {stand : σ}
    {outcome : β × RecordStream σ}
    (feeds : Feeds source wants take ⟨stream.kind, next, stream.kind.results item, .streaming⟩
      (feedPending wants take stream.pending reader).value.1 items stand outcome) :
    Feeds source wants take stream reader (item :: items) stand outcome := by
  refine ⟨.item pulled feeds.brings, ?_, ?_, ?_⟩
  · intro earlier last same
    cases earlier with
    | nil =>
      rw [handed_nil]
      exact wanted
    | cons first others =>
      rw [List.cons_append, List.cons.injEq] at same
      rw [← same.1, handed_cons wanted item others next]
      exact feeds.needed others last same.2
  · rw [handed_cons wanted item items next]
    exact feeds.reader_eq
  · rw [handed_cons wanted item items next]
    exact feeds.stops

/-- Feeding that comes to an end has done so in order, and has pulled no item too many. -/
theorem feeds_of_feedPulling
    {stream : RecordStream σ}
    {reader : β}
    {run : Logged (β × RecordStream σ)}
    (streaming : stream.state = .streaming)
    (ended : feedPulling source wants take stream reader = some run) :
    ∃ items stand, Feeds source wants take stream reader items stand run.value := by
  refine feedPulling.partial_correctness source wants take
    (fun stream reader run => stream.state = .streaming →
      ∃ items stand, Feeds source wants take stream reader items stand run.value)
    ?_ stream reader run ended streaming
  intro feed inductionHypothesis stream reader run ended streaming
  by_cases wanted : wants (feedPending wants take stream.pending reader).value.1 = true
  · rw [if_pos wanted] at ended
    rcases pulled : (source.pull stream.items).value with ⟨item, next⟩
    cases item with
    | none =>
      simp only [pulled, Option.some.injEq] at ended
      rw [← ended]
      refine ⟨[], stream.items, ?_⟩
      have ends : source.Ends stream.items := by rw [Source.Ends, pulled]
      have feeds := feeds_of_ends wanted ends
      rw [pulled] at feeds
      exact feeds
    | some item =>
      simp only [pulled] at ended
      obtain ⟨fed, isFed, same⟩ := Option.bind_eq_some_iff.mp ended
      obtain ⟨items, stand, feeds⟩ := inductionHypothesis _ _ fed isFed rfl
      refine ⟨item :: items, stand, ?_⟩
      rw [← Option.some.inj same]
      exact feeds.pulled wanted pulled
  · rw [if_neg wanted, Option.some.injEq] at ended
    rw [Bool.not_eq_true] at wanted
    rw [← ended]
    exact ⟨[], stream.items, feeds_of_satisfied streaming wanted⟩

/-- The reader has had enough of the items that were pulled, or there are no others. -/
theorem Feeds.enough
    {stream : RecordStream σ}
    {reader : β}
    {items : List ItemResult}
    {stand : σ}
    {outcome : β × RecordStream σ}
    (feeds : Feeds source wants take stream reader items stand outcome) :
    wants (handed wants take stream reader items).1 = false ∨ source.Ends stand := by
  rw [← feeds.reader_eq]
  rcases feeds.stops with ⟨satisfied, -⟩ | ⟨-, ends, -⟩
  · exact Or.inl satisfied
  · exact Or.inr ends

/-- Feeding comes to an end if the items of finitely many pulls satisfy the reader, or are all
there are. -/
theorem feedPulling_of_brings
    {stream : RecordStream σ}
    {items : List ItemResult}
    {stand : σ}
    (brings : source.Brings stream.items items stand)
    (reader : β)
    (enough : wants (handed wants take stream reader items).1 = false ∨ source.Ends stand) :
    ∃ run, feedPulling source wants take stream reader = some run ∧
      run.value.1 = (handed wants take stream reader items).1 := by
  generalize place : stream.items = start at brings
  induction brings generalizing stream reader with
  | nothing start =>
    rw [handed_nil] at enough ⊢
    rw [feedPulling]
    by_cases wanted : wants (feedPending wants take stream.pending reader).value.1 = true
    · rw [if_pos wanted, place]
      rcases enough with satisfied | ends
      · rw [wanted] at satisfied
        cases satisfied
      · rcases pulled : (source.pull start).value with ⟨item, next⟩
        have nothing : item = none := by
          rw [Source.Ends, pulled] at ends
          exact ends
        rw [nothing] at pulled
        simp only [pulled]
        exact ⟨_, rfl, rfl⟩
    · rw [if_neg wanted]
      exact ⟨_, rfl, rfl⟩
  | @item start next final item items pulled _ inductionHypothesis =>
    rw [feedPulling]
    by_cases wanted : wants (feedPending wants take stream.pending reader).value.1 = true
    · rw [if_pos wanted, place]
      rw [handed_cons wanted item items next] at enough ⊢
      obtain ⟨fed, isFed, same⟩ := inductionHypothesis _ enough rfl
      simp only [pulled, isFed]
      exact ⟨_, rfl, same⟩
    · rw [if_neg wanted]
      rw [Bool.not_eq_true] at wanted
      have satisfied : wants (handed wants take stream reader []).1 = false := by
        rw [handed_nil]
        exact wanted
      have same := handed_append_of_satisfied satisfied (item :: items)
      rw [List.nil_append, handed_nil] at same
      exact ⟨_, rfl, same.symm⟩

/-- Feeding from a pass that has not begun is pulling from its source. -/
theorem run?_feed_new (kind : SetKind) (items : σ) (reader : β) :
    (feed source wants take (RecordStream.new kind items) reader).run? =
      feedPulling source wants take (RecordStream.new kind items) reader := rfl

/-- Whatever handing over pending results lets happen comes from taking one. -/
theorem events_of_feedPending
    {happens : Event → Prop}
    (taking : ∀ reader result, ∀ event ∈ (take reader result).events, happens event)
    (results : List RecordResult)
    (reader : β) :
    ∀ event ∈ (feedPending wants take results reader).events, happens event := by
  induction results generalizing reader with
  | nil => exact List.forall_mem_nil _
  | cons result rest inductionHypothesis =>
    rw [feedPending]
    split
    · rw [Logged.events_bind, List.forall_mem_append]
      exact ⟨taking reader result, inductionHypothesis _⟩
    · exact List.forall_mem_nil _

/-- Whatever feeding lets happen comes from pulling an item or from taking a result. -/
theorem events_of_feedPulling
    {happens : Event → Prop}
    (pulling : ∀ place, ∀ event ∈ (source.pull place).events, happens event)
    (taking : ∀ reader result, ∀ event ∈ (take reader result).events, happens event)
    {stream : RecordStream σ}
    {reader : β}
    {run : Logged (β × RecordStream σ)}
    (ended : feedPulling source wants take stream reader = some run) :
    ∀ event ∈ run.events, happens event := by
  refine feedPulling.partial_correctness source wants take
    (fun _ _ run => ∀ event ∈ run.events, happens event) ?_ stream reader run ended
  intro feed inductionHypothesis stream reader run ended
  have handing : ∀ event ∈ (feedPending wants take stream.pending reader).events,
      happens event := events_of_feedPending taking stream.pending reader
  have asking := pulling stream.items
  by_cases wanted : wants (feedPending wants take stream.pending reader).value.1 = true
  · rw [if_pos wanted] at ended
    rcases pulled : (source.pull stream.items).value with ⟨item, next⟩
    cases item with
    | none =>
      simp only [pulled, Option.some.injEq] at ended
      rw [← ended]
      exact List.forall_mem_append.mpr ⟨handing, asking⟩
    | some item =>
      simp only [pulled] at ended
      obtain ⟨fed, isFed, same⟩ := Option.bind_eq_some_iff.mp ended
      rw [← Option.some.inj same]
      exact List.forall_mem_append.mpr
        ⟨List.forall_mem_append.mpr ⟨handing, asking⟩, inductionHypothesis _ _ fed isFed⟩
  · rw [if_neg wanted, Option.some.injEq] at ended
    rw [← ended]
    exact handing

section Shown

variable {shown : β → γ} {wantsShown : γ → Bool} {takeShown : γ → RecordResult → Logged γ}

/-- A reader of which only a part is shown is handed the same results. -/
theorem feedPending_shown
    (sameWants : ∀ reader, wantsShown (shown reader) = wants reader)
    (sameTake : ∀ reader result,
      (takeShown (shown reader) result).value = shown (take reader result).value)
    (results : List RecordResult)
    (reader : β) :
    (feedPending wantsShown takeShown results (shown reader)).value =
      (shown (feedPending wants take results reader).value.1,
        (feedPending wants take results reader).value.2) := by
  induction results generalizing reader with
  | nil => rfl
  | cons result rest inductionHypothesis =>
    by_cases wanted : wants reader = true
    · rw [feedPending_cons_of_wants (sameWants reader ▸ wanted),
        feedPending_cons_of_wants wanted, sameTake, inductionHypothesis]
    · rw [Bool.not_eq_true] at wanted
      rw [feedPending_of_satisfied (sameWants reader ▸ wanted),
        feedPending_of_satisfied wanted]

/-- What is fed to the shown part of a reader is what is fed to the whole of it. -/
theorem feedPulling_shown
    (sameWants : ∀ reader, wantsShown (shown reader) = wants reader)
    (sameTake : ∀ reader result,
      (takeShown (shown reader) result).value = shown (take reader result).value)
    {stream : RecordStream σ}
    {reader : β}
    {run : Logged (γ × RecordStream σ)}
    (ended : feedPulling source wantsShown takeShown stream (shown reader) = some run) :
    ∃ whole, feedPulling source wants take stream reader = some whole ∧
      run.value = (shown whole.value.1, whole.value.2) := by
  refine feedPulling.partial_correctness source wantsShown takeShown
    (fun stream part run => ∀ reader, part = shown reader →
      ∃ whole, feedPulling source wants take stream reader = some whole ∧
        run.value = (shown whole.value.1, whole.value.2))
    ?_ stream (shown reader) run ended reader rfl
  intro feed inductionHypothesis stream part run ended reader isShown
  rw [isShown] at ended
  have fed := feedPending_shown sameWants sameTake stream.pending reader
  rw [feedPulling]
  by_cases wanted : wants (feedPending wants take stream.pending reader).value.1 = true
  · simp only [fed, sameWants, wanted, if_true] at ended ⊢
    rcases pulled : (source.pull stream.items).value with ⟨item, next⟩
    cases item with
    | none =>
      simp only [pulled, Option.some.injEq] at ended
      rw [← ended]
      exact ⟨_, rfl, rfl⟩
    | some item =>
      simp only [pulled] at ended
      obtain ⟨others, areOthers, same⟩ := Option.bind_eq_some_iff.mp ended
      obtain ⟨whole, isWhole, equal⟩ := inductionHypothesis _ _ others areOthers _ rfl
      simp only [isWhole]
      rw [← Option.some.inj same]
      exact ⟨_, rfl, equal⟩
  · rw [Bool.not_eq_true] at wanted
    simp only [fed, sameWants, wanted, Bool.false_eq_true, if_false, Option.some.injEq] at ended ⊢
    rw [← ended]
    exact ⟨_, rfl, rfl⟩

end Shown

section Next

/-- The results that a stream has still to hand over before it ends. -/
inductive Owes (source : Source τ σ) : RecordStream σ → List RecordResult → Prop
  | streaming {kind : SetKind} {place stand : σ} {pending : List RecordResult}
      {items : List ItemResult} :
      source.Brings place items stand → source.Ends stand →
        Owes source ⟨kind, place, pending, .streaming⟩ (pending ++ items.flatMap kind.results)
  | exhausted (kind : SetKind) (place : σ) (pending : List RecordResult) :
      Owes source ⟨kind, place, pending, .exhausted⟩ []

/-- The results that a stream has still to hand over before its items stand at a place, where they
end if the stream is exhausted. -/
inductive OwesUntil (source : Source τ σ) (stand : σ) : RecordStream σ → List RecordResult → Prop
  | streaming {kind : SetKind} {place : σ} {pending : List RecordResult}
      {items : List ItemResult} :
      source.Brings place items stand →
        OwesUntil source stand ⟨kind, place, pending, .streaming⟩
          (pending ++ items.flatMap kind.results)
  | exhausted (kind : SetKind) (pending : List RecordResult) :
      source.Ends stand →
        OwesUntil source stand ⟨kind, (source.pull stand).value.2, pending, .exhausted⟩ []

theorem OwesUntil.owes
    {stand : σ}
    {stream : RecordStream σ}
    {results : List RecordResult}
    (owes : stream.OwesUntil source stand results)
    (ends : source.Ends stand) :
    stream.Owes source results := by
  cases owes with
  | streaming brings => exact .streaming brings ends
  | exhausted kind pending _ => exact .exhausted kind _ pending

theorem OwesUntil.eq_nil_of_exhausted
    {stand : σ}
    {stream : RecordStream σ}
    {results : List RecordResult}
    (owes : stream.OwesUntil source stand results)
    (exhausted : stream.state = .exhausted) :
    results = [] := by
  cases owes with
  | streaming => cases exhausted
  | exhausted => rfl

theorem Owes.eq_nil_of_exhausted
    {stream : RecordStream σ}
    {results : List RecordResult}
    (owes : stream.Owes source results)
    (exhausted : stream.state = .exhausted) :
    results = [] := by
  cases owes with
  | streaming => cases exhausted
  | exhausted => rfl

/-- A reader of one result takes the first. -/
theorem feedPending_one (results : List RecordResult) :
    (feedPending Option.isNone (fun _ result => pure (some result)) results none).value =
      (results.head?, results.tail) := by
  cases results with
  | nil => rfl
  | cons result rest =>
    rw [feedPending_cons_of_wants rfl]
    exact feedPending_of_satisfied rfl rest

/-- A reader of one result that has got one before its stream comes to a place has pulled no items
beyond that place. -/
theorem Feeds.rest
    {kind : SetKind}
    {place stand left : σ}
    {pending : List RecordResult}
    {items taken : List ItemResult}
    {outcome : Option RecordResult × RecordStream σ}
    (brings : source.Brings place items stand)
    (enough : pending ++ items.flatMap kind.results ≠ [] ∨ source.Ends stand)
    (feeds : Feeds source Option.isNone (fun _ result => pure (some result))
      ⟨kind, place, pending, .streaming⟩ none taken left outcome) :
    ∃ rest, items = taken ++ rest ∧ source.Brings left rest stand := by
  rcases enough with nonempty | ends
  · apply feeds.brings.rest_of_length_le brings
    by_contra longer
    rw [Nat.not_le] at longer
    have within : items <+: taken := brings.prefix_of_length_le feeds.brings (Nat.le_of_lt longer)
    obtain ⟨earlier, last, split⟩ : ∃ earlier last, taken = earlier ++ [last] := by
      rcases List.eq_nil_or_concat' taken with none | some
      · rw [none] at longer
        cases longer
      · exact some
    have before : items <+: earlier := by
      apply List.prefix_of_prefix_length_le within ⟨[last], split.symm⟩
      rw [split, List.length_append] at longer
      exact Nat.le_of_lt_succ longer
    -- The last item was pulled for a reader that had got no result of the items before it.
    have wanted := feeds.needed earlier last split
    rw [handed, feedPending_one, Option.isNone_iff_eq_none, List.head?_eq_none_iff,
      List.append_eq_nil_iff] at wanted
    have nothing := Source.flatMap_prefix before kind
    rw [wanted.2, List.prefix_nil] at nothing
    exact nonempty (List.append_eq_nil_iff.mpr ⟨wanted.1, nothing⟩)
  · exact brings.rest_of_ends ends feeds.brings

/-- The next result is the first of those that a stream hands over before its items come to a place,
and the others are still to come; if there are none and the items end there, so does the stream. -/
theorem next?_of_owesUntil
    {stand : σ}
    {stream : RecordStream σ}
    {results : List RecordResult}
    (owes : stream.OwesUntil source stand results)
    (enough : results ≠ [] ∨ source.Ends stand) :
    ∃ run,
      (stream.next? source).run? = some run ∧
      run.value.1 = results.head? ∧
      run.value.2.OwesUntil source stand results.tail ∧
      run.value.2.kind = stream.kind ∧
      (run.value.2.state = .exhausted ↔ results = []) := by
  cases owes with
  | exhausted kind pending ends => exact ⟨_, rfl, rfl, .exhausted kind pending ends, rfl, by simp⟩
  | @streaming kind place pending items brings =>
    obtain ⟨run, isRun, -⟩ : ∃ run,
        feedPulling source Option.isNone (fun _ result => pure (some result))
          ⟨kind, place, pending, .streaming⟩ none = some run ∧ _ := by
      apply feedPulling_of_brings brings none
      rw [handed, feedPending_one]
      refine enough.imp_left fun nonempty => ?_
      rw [Option.isNone_eq_false_iff, List.isSome_head?]
      exact nonempty
    obtain ⟨taken, left, feeds⟩ := feeds_of_feedPulling rfl isRun
    obtain ⟨rest, split, behind⟩ := feeds.rest brings enough
    have reader := feeds.reader_eq
    have stops := feeds.stops
    rw [handed, feedPending_one] at reader stops
    refine ⟨run, isRun, ?_⟩
    rw [split, List.flatMap_append, ← List.append_assoc]
    rcases stops with ⟨satisfied, stream⟩ | ⟨wanted, ended, stream⟩
    · -- The first of the results has come from the items taken.
      cases owed : pending ++ taken.flatMap kind.results with
      | nil =>
        rw [reader, owed] at satisfied
        cases satisfied
      | cons result others =>
        rw [owed] at reader stream
        rw [reader, stream]
        exact ⟨rfl, .streaming behind, rfl, by simp⟩
    · obtain ⟨nothing, same⟩ := behind.eq_nil_of_ends ended
      rw [reader, Option.isNone_iff_eq_none, List.head?_eq_none_iff] at wanted
      rw [reader, stream, wanted, nothing, ← same]
      rw [← same] at ended
      exact ⟨rfl, .exhausted _ _ ended, rfl, by simp⟩

/-- The next result is the first that a stream owes, and the others are still owed; a stream that
owes nothing is exhausted. -/
theorem next?_of_owes
    {stream : RecordStream σ}
    {results : List RecordResult}
    (owes : stream.Owes source results) :
    ∃ run,
      (stream.next? source).run? = some run ∧
      run.value.1 = results.head? ∧
      run.value.2.Owes source results.tail ∧
      run.value.2.kind = stream.kind ∧
      (run.value.2.state = .exhausted ↔ results = []) := by
  cases owes with
  | exhausted kind place pending =>
    exact ⟨_, rfl, rfl, .exhausted kind place pending, rfl, by simp⟩
  | streaming brings ends =>
    obtain ⟨run, isRun, first, others, facts⟩ :=
      next?_of_owesUntil (.streaming brings) (.inr ends)
    exact ⟨run, isRun, first, others.owes ends, facts⟩

theorem run?_next
    {stream : RecordStream σ}
    {run : Logged (Option RecordResult × RecordStream σ)}
    (comes : (stream.next? source).run? = some run) :
    (stream.next source).run? =
      some ⟨(run.value.1.getD (.error .exhausted), run.value.2), run.events⟩ := by
  rw [RecordStream.next, Course.run?_bind, comes]
  exact congrArg some (congrArg (Logged.mk _) (List.append_nil _))

/-- Nothing happens at a request for the next record but that the next result comes. -/
theorem next?_of_next
    {stream : RecordStream σ}
    {run : Logged (RecordResult × RecordStream σ)}
    (comes : (stream.next source).run? = some run) :
    ∃ read, (stream.next? source).run? = some read ∧ run.value.2 = read.value.2 ∧
      run.events = read.events := by
  rw [RecordStream.next, Course.run?_bind, Option.bind_eq_some_iff] at comes
  obtain ⟨read, isRead, same⟩ := comes
  refine ⟨read, isRead, ?_⟩
  rw [← Option.some.inj same]
  exact ⟨rfl, List.append_nil _⟩

/-- A request for the next record is answered with the first result that a stream owes, or with
the end of the stream. -/
theorem next_of_owes
    {stream : RecordStream σ}
    {results : List RecordResult}
    (owes : stream.Owes source results) :
    ∃ run,
      (stream.next source).run? = some run ∧
      run.value.1 = results.headD (.error .exhausted) ∧
      run.value.2.Owes source results.tail ∧
      run.value.2.kind = stream.kind ∧
      (run.value.2.state = .exhausted ↔ results = []) := by
  obtain ⟨run, isRun, first, others⟩ := next?_of_owes owes
  refine ⟨_, run?_next isRun, ?_, others⟩
  rw [List.headD_eq_head?_getD, ← first]

/-- Whatever a request for the next record lets happen comes from pulling an item. -/
theorem events_of_next
    {happens : Event → Prop}
    (pulling : ∀ place, ∀ event ∈ (source.pull place).events, happens event)
    {stream : RecordStream σ}
    {run : Logged (RecordResult × RecordStream σ)}
    (comes : (stream.next source).run? = some run) :
    ∀ event ∈ run.events, happens event := by
  obtain ⟨fed, isFed, -, events⟩ := next?_of_next comes
  rw [events]
  rw [next?, feed] at isFed
  split at isFed
  · rw [Course.run?_pure, Option.some.injEq] at isFed
    rw [← isFed]
    exact List.forall_mem_nil _
  · exact events_of_feedPulling pulling (fun _ _ => List.forall_mem_nil _) isFed

/-- Requests for the next record, one after the other. -/
def nexts (source : Source τ σ) :
    Nat → RecordStream σ → Course (List RecordResult × RecordStream σ)
  | 0, stream => return ([], stream)
  | count + 1, stream => do
    let (first, stream) ← stream.next source
    let (others, stream) ← nexts source count stream
    return (first :: others, stream)

/-- Any number of requests are answered with what a stream owes, and then with its end. -/
theorem nexts_of_owes
    {stream : RecordStream σ}
    {results : List RecordResult}
    (owes : stream.Owes source results)
    (count : Nat) :
    ∃ run,
      (nexts source count stream).run? = some run ∧
      run.value.1 =
        (List.range count).map fun place => results.getD place (.error .exhausted) := by
  induction count generalizing stream results with
  | zero => exact ⟨_, rfl, rfl⟩
  | succ count inductionHypothesis =>
    obtain ⟨one, isOne, first, others, -⟩ := next_of_owes owes
    obtain ⟨run, isRun, answers⟩ := inductionHypothesis others
    refine ⟨⟨(one.value.1 :: run.value.1, run.value.2), one.events ++ (run.events ++ [])⟩, ?_, ?_⟩
    · rw [nexts, Course.run?_bind, isOne, Option.bind_some, Course.run?_bind, isRun]
      rfl
    · rw [answers, first, List.range_succ_eq_map, List.map_cons, List.map_map, List.headD_eq_getD]
      simp

/-- A request to an exhausted stream does nothing. -/
theorem next_of_exhausted
    {stream : RecordStream σ}
    (exhausted : stream.state = .exhausted) :
    (stream.next source).run? = some ⟨(.error .exhausted, stream), []⟩ := by
  rw [RecordStream.next, RecordStream.next?, feed, exhausted]
  rfl

end Next

end RecordStream

namespace ValidationSet

variable {set : ValidationSet} {source : Source τ σ} {memory : τ}

/-- A set is opened at the beginning of a pass over what its source has opened. -/
theorem openWith_of_opened
    {opened : σ}
    (isOpened : (source.openStream memory set.request).value.1 = .ok opened) :
    (set.openWith source memory).value.1 = .ok (RecordStream.new set.kind opened) := by
  simp only [openWith, Logged.value_bind, isOpened]
  rfl

/-- If its source does not open, there is no pass over the set. -/
theorem openWith_of_unopened
    {cause : Failure}
    (unopened : (source.openStream memory set.request).value.1 = .error cause) :
    (set.openWith source memory).value.1 = .error (.sourceUnavailable set.locator cause) := by
  simp only [openWith, Logged.value_bind, unopened]
  rfl

/-- For a set the source opens to a stream that brings these items and then ends. -/
def Delivers (set : ValidationSet) (source : Source τ σ) (memory : τ) (items : List ItemResult) :
    Prop :=
  ∃ opened stand, (source.openStream memory set.request).value.1 = .ok opened ∧
    source.Brings opened items stand ∧ source.Ends stand

/-- A set that is read record by record tells what its items stand for, and then its end. -/
theorem Delivers.nexts
    {items : List ItemResult}
    (delivers : set.Delivers source memory items) :
    ∃ stream,
      (set.openWith source memory).value.1 = .ok stream ∧
      ∀ count, ∃ run,
        (RecordStream.nexts source count stream).run? = some run ∧
        run.value.1 = (List.range count).map fun place =>
          (items.flatMap set.kind.results).getD place (.error .exhausted) := by
  obtain ⟨opened, stand, isOpened, brings, ends⟩ := delivers
  have owes : (RecordStream.new set.kind opened).Owes source (items.flatMap set.kind.results) :=
    .streaming brings ends
  exact ⟨_, openWith_of_opened isOpened, RecordStream.nexts_of_owes owes⟩

end ValidationSet
end Holdout
