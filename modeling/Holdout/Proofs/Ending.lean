import Holdout.Proofs.Dataset
import Holdout.Proofs.RecordStream

/-!
# The end of a record stream

A record stream can be asked for the next record, walked over like a list, and asked for its
state, in any order. It hands over the results of its items one by one, whichever way it is
read, and tells its end only behind the last of them; from then on it tells nothing else. The
source may have further items behind its end, and errors anywhere: it is not asked again.
-/

namespace Holdout

/-- What can be asked of a record stream. -/
inductive Ask
  | record
  /-- The next record for one who walks over the stream. -/
  | item
  | state
  deriving DecidableEq, Repr

/-- What a record stream answers. -/
inductive Answer
  | record (result : RecordResult)
  | item (result : Option RecordResult)
  | state (state : StreamState)

namespace Ask

/-- The stream is read, in one of two ways. -/
def reads : Ask → Bool
  | .record => true
  | .item => true
  | .state => false

/-- The answer of a stream of results that has been read so many times, and has told its end or has
not. -/
def expected (results : List RecordResult) (count : Nat) (told : Bool) : Ask → Answer
  | .record => .record (results.getD count (.error .exhausted))
  | .item => .item results[count]?
  | .state => .state (if told then .exhausted else .streaming)

theorem expected_drop
    (results : List RecordResult)
    (dropped count : Nat)
    (told : Bool)
    (ask : Ask) :
    ask.expected (results.drop dropped) count told =
      ask.expected results (dropped + count) told := by
  cases ask with
  | record => rw [expected, expected, List.getD_eq_getElem?_getD, List.getElem?_drop,
      ← List.getD_eq_getElem?_getD]
  | item => rw [expected, expected, List.getElem?_drop]
  | state => rfl

end Ask

/-- The answer says that the stream has ended. -/
def Answer.tellsEnd : Answer → Bool
  | .record (.error .exhausted) => true
  | .item none => true
  | _ => false

/-- The end is told by the answers behind the last result, if none of the results tells it. -/
theorem Ask.tellsEnd_expected
    {results : List RecordResult}
    (noEnd : .error .exhausted ∉ results)
    (count : Nat)
    (told : Bool)
    (ask : Ask) :
    (ask.expected results count told).tellsEnd =
      (ask.reads && decide (results.length ≤ count)) := by
  by_cases within : count < results.length
  · have found : results[count]? = some results[count] := List.getElem?_eq_getElem within
    have noResult : results[count] ≠ .error .exhausted :=
      fun isEnd => noEnd (isEnd ▸ List.getElem_mem within)
    rw [decide_eq_false (Nat.not_le.mpr within), Bool.and_false]
    cases ask with
    | record =>
      rw [expected, List.getD_eq_getElem?_getD, found, Option.getD_some]
      unfold Answer.tellsEnd
      split
      · rename_i isEnd
        exact absurd (Answer.record.inj isEnd) noResult
      · rename_i isItem
        cases isItem
      · rfl
    | item => rw [expected, found]; rfl
    | state => rfl
  · have missing : results[count]? = none := List.getElem?_eq_none (Nat.not_lt.mp within)
    rw [decide_eq_true (Nat.not_lt.mp within), Bool.and_true]
    cases ask with
    | record =>
      rw [expected, List.getD_eq_getElem?_getD, missing]
      rfl
    | item =>
      rw [expected, missing]
      rfl
    | state => rfl

/-- How often a stream is read. -/
def reads (asks : List Ask) : Nat := asks.countP Ask.reads

/-- The answers to these questions are the results in order and then the end, which is the state
as soon as it has been told. The end may have been told before the first question. -/
structure EndsOnce
    (told : Bool)
    (results : List RecordResult)
    (asks : List Ask)
    (answers : List Answer) : Prop where
  length_eq : answers.length = asks.length
  answer_eq : ∀ (place : Nat) (ask : Ask), asks[place]? = some ask →
    answers[place]? = some (ask.expected results (reads (asks.take place))
      (told || (answers.take place).any Answer.tellsEnd))

theorem reads_cons (first : Ask) (rest : List Ask) :
    reads (first :: rest) = first.reads.toNat + reads rest := by
  rw [reads, reads, List.countP_cons, Nat.add_comm]
  cases first.reads with
  | false => rfl
  | true => rfl

theorem EndsOnce.nil (told : Bool) (results : List RecordResult) :
    EndsOnce told results [] [] where
  length_eq := rfl
  answer_eq _ _ asked := by cases asked

/-- After the first question the stream has fewer results, and may have told its end. -/
theorem EndsOnce.cons
    {told : Bool}
    {results : List RecordResult}
    {first : Ask}
    {rest : List Ask}
    {answers : List Answer}
    (behind : EndsOnce (told || (first.expected results 0 told).tellsEnd)
      (results.drop first.reads.toNat) rest answers) :
    EndsOnce told results (first :: rest) (first.expected results 0 told :: answers) where
  length_eq := congrArg Nat.succ behind.length_eq
  answer_eq place ask asked := by
    cases place with
    | zero =>
      obtain rfl : first = ask := Option.some.inj asked
      simp [reads]
    | succ place =>
      rw [List.getElem?_cons_succ] at asked ⊢
      rw [behind.answer_eq place ask asked, Ask.expected_drop, List.take_succ_cons,
        List.take_succ_cons, reads_cons, List.any_cons, Bool.or_assoc]

namespace RecordStream

/-- One question and its answer. -/
def answer (source : Source τ σ) (stream : RecordStream σ) :
    Ask → Course (Answer × RecordStream σ)
  | .record => do
    let (result, stream) ← stream.next source
    return (.record result, stream)
  | .item => do
    let (result, stream) ← stream.iterate source
    return (.item result, stream)
  | .state => return (.state stream.state, stream)

/-- Questions one after the other, with their answers. -/
def answers (source : Source τ σ) :
    List Ask → RecordStream σ → Course (List Answer × RecordStream σ)
  | [], stream => return ([], stream)
  | first :: rest, stream => do
    let (answer, stream) ← stream.answer source first
    let (others, stream) ← answers source rest stream
    return (answer :: others, stream)

variable {source : Source τ σ} {stream : RecordStream σ}

theorem run?_answers_cons (first : Ask) (rest : List Ask) :
    (answers source (first :: rest) stream).run? =
      (stream.answer source first).run?.bind fun one =>
        (answers source rest one.value.2).run?.map fun others =>
          ⟨(one.value.1 :: others.value.1, others.value.2), one.events ++ others.events⟩ := by
  rw [answers, Course.run?_bind]
  congr 1
  funext one
  rw [Course.run?_bind, Option.map_bind, Option.map_eq_bind]
  congr 1
  funext others
  simp

/-- One who walks over the records meets every result, if none of them is the end of the stream. -/
theorem run?_iterate
    {run : Logged (Option RecordResult × RecordStream σ)}
    (comes : (stream.next? source).run? = some run)
    (noEnd : run.value.1 ≠ some (.error .exhausted)) :
    (stream.iterate source).run? = some run := by
  obtain ⟨⟨result, stream⟩, events⟩ := run
  rw [iterate, Course.run?_bind, run?_next comes, Option.bind_some]
  cases result with
  | none => simp
  | some result =>
    simp only [Option.getD_some]
    split
    · exact absurd rfl noEnd
    · simp

section Answers

variable {stand : σ} {results : List RecordResult} {told : Bool}

/-- One question of a stream that has enough results for it. -/
theorem answer_of_owesUntil
    (owes : stream.OwesUntil source stand results)
    (noEnd : .error .exhausted ∉ results)
    (isTold : stream.state = .exhausted ↔ told = true)
    (ask : Ask)
    (enough : ask.reads = true → results ≠ [] ∨ source.Ends stand) :
    ∃ run,
      (stream.answer source ask).run? = some run ∧
      run.value.1 = ask.expected results 0 told ∧
      run.value.2.OwesUntil source stand (results.drop ask.reads.toNat) ∧
      (run.value.2.state = .exhausted ↔
        (told || (ask.expected results 0 told).tellsEnd) = true) := by
  have stillTold : results = [] ↔ (told || decide (results.length ≤ 0)) = true := by
    rw [Bool.or_eq_true, decide_eq_true_eq, Nat.le_zero, List.length_eq_zero_iff, ← isTold]
    exact ⟨.inr, fun known => known.elim owes.eq_nil_of_exhausted id⟩
  rw [Ask.tellsEnd_expected noEnd]
  cases ask with
  | record =>
    obtain ⟨run, comes, first, behind, -, ended⟩ := next?_of_owesUntil owes (enough rfl)
    refine ⟨⟨(.record (run.value.1.getD (.error .exhausted)), run.value.2), run.events⟩, ?_, ?_,
      ?_, ended.trans stillTold⟩
    · rw [answer, Course.run?_bind, run?_next comes]
      exact congrArg some (congrArg (Logged.mk _) (List.append_nil _))
    · rw [first, Ask.expected, ← List.headD_eq_getD, List.headD_eq_head?_getD]
    · rw [← List.drop_one] at behind
      exact behind
  | item =>
    obtain ⟨run, comes, first, behind, -, ended⟩ := next?_of_owesUntil owes (enough rfl)
    have noEndFirst : run.value.1 ≠ some (.error .exhausted) := by
      rw [first]
      exact fun isEnd => noEnd (List.mem_of_head? isEnd)
    refine ⟨⟨(.item run.value.1, run.value.2), run.events⟩, ?_, ?_, ?_, ended.trans stillTold⟩
    · rw [answer, Course.run?_bind, run?_iterate comes noEndFirst]
      exact congrArg some (congrArg (Logged.mk _) (List.append_nil _))
    · rw [first, Ask.expected, List.head?_eq_getElem?]
    · rw [← List.drop_one] at behind
      exact behind
  | state =>
    refine ⟨_, rfl, ?_, owes, ?_⟩
    · cases told with
      | false =>
        have streaming : stream.state = .streaming := by
          cases isState : stream.state with
          | streaming => rfl
          | exhausted => exact absurd (isTold.mp isState) Bool.false_ne_true
        exact congrArg Answer.state streaming
      | true => exact congrArg Answer.state (isTold.mpr rfl)
    · exact isTold.trans (by simp [Ask.reads])

/-- Any questions of a stream that has enough results for them. -/
theorem answers_of_owesUntil
    (owes : stream.OwesUntil source stand results)
    (noEnd : .error .exhausted ∉ results)
    (isTold : stream.state = .exhausted ↔ told = true)
    (asks : List Ask)
    (enough : reads asks ≤ results.length ∨ source.Ends stand) :
    ∃ run,
      (answers source asks stream).run? = some run ∧
      EndsOnce told results asks run.value.1 ∧
      (∃ left, run.value.2.OwesUntil source stand left) ∧
      (run.value.2.state = .exhausted ↔
        (told || run.value.1.any Answer.tellsEnd) = true) := by
  induction asks generalizing stream results told with
  | nil =>
    exact ⟨_, rfl, .nil told results, ⟨results, owes⟩, isTold.trans (by simp)⟩
  | cons first rest inductionHypothesis =>
    rw [reads_cons] at enough
    have enoughNow : first.reads = true → results ≠ [] ∨ source.Ends stand := by
      intro isRead
      refine enough.imp_left fun many none => ?_
      rw [isRead, none] at many
      exact absurd many (by simp)
    have enoughBehind :
        reads rest ≤ (results.drop first.reads.toNat).length ∨ source.Ends stand := by
      refine enough.imp_left fun many => ?_
      rw [List.length_drop]
      omega
    have noEndBehind : .error .exhausted ∉ results.drop first.reads.toNat :=
      fun among => noEnd (List.mem_of_mem_drop among)
    obtain ⟨one, isOne, isAnswer, behind, toldNow⟩ :=
      answer_of_owesUntil owes noEnd isTold first enoughNow
    obtain ⟨others, areOthers, once, left, toldBehind⟩ :=
      inductionHypothesis behind noEndBehind toldNow enoughBehind
    refine ⟨⟨(one.value.1 :: others.value.1, others.value.2), one.events ++ others.events⟩, ?_, ?_,
      left, ?_⟩
    · rw [run?_answers_cons, isOne, Option.bind_some, areOthers, Option.map_some]
    · rw [isAnswer]
      exact once.cons
    · rw [toldBehind, isAnswer, List.any_cons, Bool.or_assoc]

/-- A result that is read comes from items that have been pulled, unless the items end. -/
theorem brings_of_next?
    {run : Logged (Option RecordResult × RecordStream σ)}
    (streaming : stream.state = .streaming)
    (comes : (stream.next? source).run? = some run) :
    ∃ items left,
      source.Brings stream.items items left ∧
      (source.Ends left ∨
        ∃ result others,
          stream.pending ++ items.flatMap stream.kind.results = result :: others ∧
          run.value.2 = ⟨stream.kind, left, others, .streaming⟩) := by
  rw [next?, feed, streaming] at comes
  obtain ⟨items, left, feeds⟩ := feeds_of_feedPulling streaming comes
  have reader := feeds.reader_eq
  have stops := feeds.stops
  rw [handed, feedPending_one] at reader stops
  refine ⟨items, left, feeds.brings, ?_⟩
  rcases stops with ⟨satisfied, behind⟩ | ⟨-, ends, -⟩
  · cases found : stream.pending ++ items.flatMap stream.kind.results with
    | nil =>
      rw [reader, found] at satisfied
      cases satisfied
    | cons result others =>
      rw [found] at behind
      exact .inr ⟨result, others, rfl, behind⟩
  · exact .inl ends

/-- In whichever way a stream is read, the next result has come. -/
theorem next?_of_answer
    {ask : Ask}
    {run : Logged (Answer × RecordStream σ)}
    (isRead : ask.reads = true)
    (comes : (stream.answer source ask).run? = some run) :
    ∃ read, (stream.next? source).run? = some read ∧ run.value.2 = read.value.2 := by
  cases ask with
  | record =>
    rw [answer, Course.run?_bind, Option.bind_eq_some_iff] at comes
    obtain ⟨one, isOne, same⟩ := comes
    obtain ⟨read, isNext, behind, -⟩ := next?_of_next isOne
    refine ⟨read, isNext, ?_⟩
    rw [← Option.some.inj same, ← behind]
    rfl
  | item =>
    rw [answer, Course.run?_bind, Option.bind_eq_some_iff] at comes
    obtain ⟨walked, isWalked, same⟩ := comes
    rw [iterate, Course.run?_bind, Option.bind_eq_some_iff] at isWalked
    obtain ⟨one, isOne, sameWalked⟩ := isWalked
    have sameStream : walked.value.2 = one.value.2 := by
      obtain ⟨⟨result, behind⟩, events⟩ := one
      dsimp only at sameWalked
      split at sameWalked
      all_goals
        rw [← Option.some.inj sameWalked]
        rfl
    obtain ⟨read, isNext, behind, -⟩ := next?_of_next isOne
    refine ⟨read, isNext, ?_⟩
    rw [← Option.some.inj same, ← behind, ← sameStream]
    rfl
  | state => cases isRead

/-- Questions that are all answered have found enough results. -/
theorem enough_of_answers
    {asks : List Ask}
    {run : Logged (List Answer × RecordStream σ)}
    (come : (answers source asks stream).run? = some run)
    (streaming : stream.state = .streaming) :
    ∃ items stand,
      source.Brings stream.items items stand ∧
      (reads asks ≤ (stream.pending ++ items.flatMap stream.kind.results).length ∨
        source.Ends stand) := by
  induction asks generalizing stream run with
  | nil => exact ⟨[], stream.items, .nothing _, .inl (Nat.zero_le _)⟩
  | cons first rest inductionHypothesis =>
    rw [run?_answers_cons, Option.bind_eq_some_iff] at come
    obtain ⟨one, isOne, mapped⟩ := come
    obtain ⟨others, areOthers, -⟩ := Option.map_eq_some_iff.mp mapped
    rw [reads_cons]
    cases isRead : first.reads with
    | false =>
      have same : one.value.2 = stream := by
        cases first with
        | state =>
          rw [← Option.some.inj isOne]
          rfl
        | record => cases isRead
        | item => cases isRead
      rw [same] at areOthers
      obtain ⟨items, stand, brings, enough⟩ := inductionHypothesis areOthers streaming
      rw [Bool.toNat_false, Nat.zero_add]
      exact ⟨items, stand, brings, enough⟩
    | true =>
      obtain ⟨read, comes, same⟩ := next?_of_answer isRead isOne
      obtain ⟨items, left, brings, ends | ⟨result, remaining, found, behind⟩⟩ :=
        brings_of_next? streaming comes
      · exact ⟨items, left, brings, .inr ends⟩
      · rw [same, behind] at areOthers
        obtain ⟨more, stand, bringsMore, enough⟩ := inductionHypothesis areOthers rfl
        refine ⟨items ++ more, stand, brings.append bringsMore, enough.imp_left fun many => ?_⟩
        rw [List.flatMap_append, ← List.append_assoc, found, List.cons_append, List.length_cons,
          Bool.toNat_true, Nat.add_comm]
        exact Nat.succ_le_succ many

end Answers

end RecordStream

namespace ValidationSet

/-- A set is opened once for a stream that ends once. In whatever order the stream is read in its
two ways and asked for its state, and whatever items the source may have behind its end, the answers
are the record results of the items before the end, in order, and then the end. The end is no record
result. All questions are answered just if there are enough results or the items end; and once the
end has been told, which is what the state says, the source has been asked for every item and once
for the end, and is not asked again. -/
theorem stream_ends_once
    (set : ValidationSet)
    (source : Source τ σ)
    (memory : τ)
    {opened : σ}
    (isOpened : (source.openStream memory set.request).value.1 = .ok opened) :
    ∃ stream,
      (set.openWith source.counting memory).value.1 = .ok stream ∧
      ∀ asks : List Ask,
        (∀ items stand,
          source.Brings opened items stand →
          reads asks ≤ (items.flatMap set.kind.results).length ∨ source.Ends stand →
          ∃ run,
            (stream.answers source.counting asks).run? = some run ∧
            EndsOnce false (items.flatMap set.kind.results) asks run.value.1 ∧
            .error .exhausted ∉ items.flatMap set.kind.results ∧
            (run.value.2.state = .exhausted ↔ ∃ answer ∈ run.value.1, answer.tellsEnd = true) ∧
            (run.value.2.state = .exhausted →
              source.Ends stand ∧ run.value.2.items.asked = items.length + 1)) ∧
        ((stream.answers source.counting asks).run?.isSome →
          ∃ items stand,
            source.Brings opened items stand ∧
            (reads asks ≤ (items.flatMap set.kind.results).length ∨ source.Ends stand)) := by
  have isOpenedToo : (source.counting.openStream memory set.request).value.1 =
      .ok ⟨opened, 0, 0⟩ := by
    simp only [Source.counting, Logged.value_bind, isOpened]
    rfl
  refine ⟨.new set.kind ⟨opened, 0, 0⟩, openWith_of_opened isOpenedToo, fun asks => ⟨?_, ?_⟩⟩
  · intro items stand brings enough
    have noEnd : .error .exhausted ∉ items.flatMap set.kind.results := by
      intro among
      obtain ⟨item, -, isResult⟩ := List.mem_flatMap.mp among
      exact set.kind.exhausted_not_mem_results item isResult
    have owes : (RecordStream.new set.kind ⟨opened, 0, 0⟩).OwesUntil source.counting
        ⟨stand, 0 + items.length, 0 + items.length⟩ (items.flatMap set.kind.results) :=
      .streaming (brings.counting 0 0)
    have untold : (RecordStream.new set.kind (Source.Counted.mk opened 0 0)).state = .exhausted ↔
        false = true := iff_of_false StreamState.noConfusion Bool.false_ne_true
    obtain ⟨run, come, once, ⟨left, behind⟩, told⟩ :=
      RecordStream.answers_of_owesUntil owes noEnd untold asks enough
    refine ⟨run, come, once, noEnd, ?_, ?_⟩
    · rw [told, Bool.false_or, List.any_eq_true]
    · generalize run.value.2 = last at behind
      intro exhausted
      cases behind with
      | streaming => cases exhausted
      | exhausted kind pending ends =>
        exact ⟨ends, congrArg (· + 1) (Nat.zero_add items.length)⟩
  · intro come
    obtain ⟨run, isRun⟩ := Option.isSome_iff_exists.mp come
    obtain ⟨items, stand, brings, enough⟩ := RecordStream.enough_of_answers isRun rfl
    exact ⟨items, stand.place, brings.of_counting.1, enough⟩

/-- A source whose streams have an item that cannot be read and then their end, again and again. -/
def flickering : Source Unit Nat where
  openStream memory _ := pure (.ok 0, memory)
  pull place := pure (if place % 2 = 0 then some (.error (.within .io)) else none, place + 1)

/-- The failures behind the first end of a stream are not told. -/
theorem flickering_ends_once :
    (flickering.openStream () (ValidationSet.request ⟨.squad, "dev.json"⟩)).value.1 = .ok 0 ∧
      (flickering.pull 2).value.1 = some (.error (.within .io)) ∧
      ∃ stream run,
        (ValidationSet.openWith ⟨.squad, "dev.json"⟩ flickering.counting ()).value.1 =
          .ok stream ∧
        (stream.answers flickering.counting [.state, .item, .record, .state, .item]).run? =
          some run ∧
        EndsOnce false [.error (.stream (.within .io))] [.state, .item, .record, .state, .item]
          run.value.1 := by
  have brings : flickering.Brings 0 [.error (.within .io)] 1 := .item rfl (.nothing 1)
  have isOpened :
      (flickering.openStream () (ValidationSet.request ⟨.squad, "dev.json"⟩)).value.1 = .ok 0 :=
    rfl
  obtain ⟨stream, opens, answered⟩ :=
    stream_ends_once ⟨.squad, "dev.json"⟩ flickering () isOpened
  obtain ⟨run, comes, once, -⟩ :=
    (answered [.state, .item, .record, .state, .item]).1 _ 1 brings (.inr rfl)
  exact ⟨isOpened, rfl, stream, run, opens, comes, once⟩

end ValidationSet
end Holdout
