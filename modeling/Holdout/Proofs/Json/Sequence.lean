import Holdout.Proofs.Json.Turns
import Holdout.Proofs.Json.Values

/-!
# Values in turn

The values of a text are read one after the other. Each of them is all that is in a part of the text, and
parts meet where no number and no word can go on: the tokens of a text are then those of the one part and
behind them those of the other.
-/

namespace Holdout
namespace Json

/-! ## Parts of a text -/

theorem Meet.cons {front rest : List UInt8} (meet : Meet front rest) (byte : UInt8) :
    Meet (byte :: front) rest := by
  rcases meet with none | ⟨last, isLast, ends⟩ | behind
  · exact .inl none
  · refine .inr (.inl ⟨last, ?_, ends⟩)
    rw [List.getLast?_cons, isLast, Option.getD_some]
  · exact .inr (.inr behind)

/-- What comes behind a part comes behind its tail, unless the part is one byte and ends there. -/
theorem Meet.of_cons {byte : UInt8} {front rest : List UInt8} (meet : Meet (byte :: front) rest) :
    Meet front rest ∨ (front = [] ∧ isBoundary byte = true) := by
  rcases meet with none | ⟨last, isLast, ends⟩ | behind
  · exact .inl (.inl none)
  · cases front with
    | nil =>
      rw [List.getLast?_singleton, Option.some.injEq] at isLast
      exact .inr ⟨rfl, isLast ▸ ends⟩
    | cons next front =>
      rw [List.getLast?_cons_cons] at isLast
      exact .inl (.inr (.inl ⟨last, isLast, ends⟩))
  · exact .inl (.inr (.inr behind))

/-! ## Tokens -/

/-- The tokens before a text go before its own. -/
theorem scanFrom_eq_map (state : ScanState) (before : List Token) (text : List UInt8) :
    scanFrom state before text = (scanFrom state [] text).map (before.reverse ++ ·) := by
  induction text generalizing state before with
  | nil =>
    simp only [scanFrom, Option.map_map, Function.comp_def, List.reverse_nil, List.nil_append]
  | cons byte rest inductionHypothesis =>
    rw [scanFrom, scanFrom]
    cases scanByte state byte with
    | none => rfl
    | some step =>
      simp only
      rw [inductionHypothesis step.2 (step.1.reverse ++ before),
        inductionHypothesis step.2 (step.1.reverse ++ [])]
      simp [Function.comp_def]

/-- The tokens of a text are those that its first byte ends, and then those of the others. -/
theorem scanFrom_cons_of_step
    {state next : ScanState}
    {byte : UInt8}
    {tokens : List Token}
    (step : scanByte state byte = some (tokens, next))
    (text : List UInt8) :
    scanFrom state [] (byte :: text) = (scanFrom next [] text).map (tokens ++ ·) := by
  rw [scanFrom, step]
  simp only
  rw [scanFrom_eq_map, List.append_nil, List.reverse_reverse]

theorem eq_of_isSome_mark? {byte : UInt8} (marks : (mark? byte).isSome = true) :
    byte = 91 ∨ byte = 93 ∨ byte = 123 ∨ byte = 125 ∨ byte = 44 ∨ byte = 58 := by
  grind [mark?]

/-- A number does not go on with a byte that can begin another token. -/
theorem NumberPhase.next?_of_isBoundary
    {byte : UInt8}
    (ends : isBoundary byte = true)
    (phase : NumberPhase) :
    phase.next? byte = none := by
  simp only [isBoundary, isSpace, Bool.or_eq_true, beq_iff_eq] at ends
  rcases ends with ((((rfl | rfl) | rfl) | rfl) | marks) | rfl
  case inl.inr =>
    rcases eq_of_isSome_mark? marks with rfl | rfl | rfl | rfl | rfl | rfl <;> cases phase <;> rfl
  all_goals cases phase <;> rfl

/-- Where the text could end, it can go on with a byte that can begin another token. -/
theorem scanByte_of_isBoundary
    {state : ScanState}
    {last : List Token}
    (ended : scanEnd state = some last)
    {byte : UInt8}
    (ends : isBoundary byte = true) :
    scanByte state byte = (beginToken byte).map fun (tokens, next) => (last ++ tokens, next) := by
  cases state with
  | between =>
    cases ended
    exact Option.map_id'.symm
  | word token remaining =>
    cases remaining with
    | nil =>
      cases ended
      exact if_pos ends
    | cons expected rest => cases ended
  | number phase written =>
    simp only [scanEnd, Option.ite_none_right_eq_some, Option.some.injEq] at ended
    obtain ⟨complete, same⟩ := ended
    rw [← same, scanByte, NumberPhase.next?_of_isBoundary ends]
    simp only [complete, if_true]
    exact if_pos ends
  | string written => cases ended
  | escape written => cases ended
  | codeUnit remaining written => cases ended

/-- The letters to come of a word do not begin other tokens. -/
def ScanState.IsPlain : ScanState → Prop
  | .word _ remaining => ∀ byte ∈ remaining, isBoundary byte = false
  | _ => True

theorem isPlain_of_beginToken
    {byte : UInt8}
    {tokens : List Token}
    {next : ScanState}
    (begun : beginToken byte = some (tokens, next)) :
    next.IsPlain := by
  have letters : "rue".toUTF8.toList = [114, 117, 101] ∧
      "alse".toUTF8.toList = [97, 108, 115, 101] ∧
      "ull".toUTF8.toList = [117, 108, 108] := by
    decide +kernel
  rw [beginToken, letters.1, letters.2.1, letters.2.2] at begun
  repeat' split at begun
  all_goals
    cases begun <;>
      simp only [ScanState.IsPlain, List.forall_mem_cons, List.not_mem_nil, false_imp_iff,
        implies_true, and_true]
  all_goals decide

theorem isPlain_of_endToken
    {token : Token}
    {byte : UInt8}
    {tokens : List Token}
    {next : ScanState}
    (ended : endToken token byte = some (tokens, next)) :
    next.IsPlain := by
  rw [endToken] at ended
  split at ended
  · obtain ⟨made, begun, same⟩ := Option.map_eq_some_iff.mp ended
    rw [← (Prod.mk.inj same).2]
    exact isPlain_of_beginToken begun
  · cases ended

theorem ScanState.IsPlain.next
    {state next : ScanState}
    {byte : UInt8}
    {tokens : List Token}
    (plain : state.IsPlain)
    (step : scanByte state byte = some (tokens, next)) :
    next.IsPlain := by
  cases state with
  | between => exact isPlain_of_beginToken step
  | word token remaining =>
    cases remaining with
    | nil => exact isPlain_of_endToken step
    | cons expected rest =>
      rw [scanByte] at step
      split at step <;> cases step
      exact fun byte among => plain byte (List.mem_cons_of_mem expected among)
  | number phase written =>
    rw [scanByte] at step
    split at step
    · cases step
      trivial
    · split at step
      · exact isPlain_of_endToken step
      · cases step
  | string written =>
    rw [scanByte] at step
    repeat' split at step
    all_goals cases step <;> trivial
  | escape written =>
    rw [scanByte] at step
    repeat' split at step
    all_goals cases step <;> trivial
  | codeUnit remaining written =>
    rw [scanByte] at step
    repeat' split at step
    all_goals cases step <;> trivial

/-- A byte that can begin another token leaves nothing under way but a string. -/
theorem eq_between_of_beginToken
    {byte : UInt8}
    {tokens last : List Token}
    {next : ScanState}
    (begun : beginToken byte = some (tokens, next))
    (ends : isBoundary byte = true)
    (ended : scanEnd next = some last) :
    next = .between := by
  rw [beginToken] at begun
  split at begun
  · cases begun
    rfl
  · rename_i written
    split at begun
    · cases begun
      rfl
    · rename_i unmarked
      simp only [isBoundary, written, unmarked, Option.isSome_none, Bool.or_false,
        Bool.false_or] at ends
      rw [if_pos ends] at begun
      cases begun
      cases ended

theorem eq_between_of_endToken
    {token : Token}
    {byte : UInt8}
    {tokens last : List Token}
    {next : ScanState}
    (step : endToken token byte = some (tokens, next))
    (ends : isBoundary byte = true)
    (ended : scanEnd next = some last) :
    next = .between := by
  rw [endToken, if_pos ends] at step
  obtain ⟨made, begun, same⟩ := Option.map_eq_some_iff.mp step
  rw [← (Prod.mk.inj same).2] at ended ⊢
  exact eq_between_of_beginToken begun ends ended

/-- If a text could end behind such a byte, there is no token under way. -/
theorem eq_between_of_scanByte
    {state next : ScanState}
    {byte : UInt8}
    {tokens last : List Token}
    (plain : state.IsPlain)
    (step : scanByte state byte = some (tokens, next))
    (ends : isBoundary byte = true)
    (ended : scanEnd next = some last) :
    next = .between := by
  cases state with
  | between => exact eq_between_of_beginToken step ends ended
  | word token remaining =>
    cases remaining with
    | nil => exact eq_between_of_endToken step ends ended
    | cons expected rest =>
      rw [scanByte] at step
      split at step
      · rename_i same
        have within := plain expected List.mem_cons_self
        rw [← beq_iff_eq.mp same, ends] at within
        cases within
      · cases step
  | number phase written =>
    rw [scanByte, NumberPhase.next?_of_isBoundary ends] at step
    simp only at step
    split at step
    · exact eq_between_of_endToken step ends ended
    · cases step
  | string written =>
    rw [scanByte] at step
    repeat' split at step
    all_goals cases step <;> first | rfl | cases ended
  | escape written =>
    rw [scanByte] at step
    repeat' split at step
    all_goals cases step <;> cases ended
  | codeUnit remaining written =>
    rw [scanByte] at step
    repeat' split at step
    all_goals cases step <;> cases ended

/-- The tokens of two parts that meet are those of one part and then those of the other. -/
theorem scanFrom_append
    {state : ScanState}
    {front rest : List UInt8}
    {tokens : List Token}
    (plain : state.IsPlain)
    (scanned : scanFrom state [] front = some tokens)
    (meet : Meet front rest) :
    scanFrom state [] (front ++ rest) = (scan? rest).map (tokens ++ ·) := by
  induction front generalizing state tokens with
  | nil =>
    obtain ⟨last, ended, same⟩ := Option.map_eq_some_iff.mp scanned
    obtain rfl : last = tokens := same
    rcases meet with rfl | ⟨byte, isLast, -⟩ | ⟨byte, isFirst, ends⟩
    · rw [List.nil_append, scanned]
      exact congrArg some (List.append_nil _).symm
    · cases isLast
    · obtain ⟨text, rfl⟩ := List.head?_eq_some_iff.mp isFirst
      have step := scanByte_of_isBoundary ended ends
      cases begun : beginToken byte with
      | none =>
        rw [begun] at step
        have stuck : scanByte .between byte = none := begun
        rw [List.nil_append, scan?, scanFrom, scanFrom, step, stuck]
        rfl
      | some made =>
        rw [begun] at step
        have first : scanByte .between byte = some made := begun
        rw [List.nil_append, scanFrom_cons_of_step step, scan?, scanFrom_cons_of_step first,
          Option.map_map]
        congr 1
        funext others
        exact List.append_assoc _ _ _
  | cons byte front inductionHypothesis =>
    cases step : scanByte state byte with
    | none =>
      rw [scanFrom, step] at scanned
      cases scanned
    | some made =>
      obtain ⟨made, next⟩ := made
      rw [scanFrom_cons_of_step step] at scanned
      obtain ⟨others, scannedOthers, same⟩ := Option.map_eq_some_iff.mp scanned
      have behind : scanFrom next [] (front ++ rest) = (scan? rest).map (others ++ ·) := by
        rcases meet.of_cons with meets | ⟨rfl, ends⟩
        · exact inductionHypothesis (plain.next step) scannedOthers meets
        · obtain ⟨last, ended, sameLast⟩ := Option.map_eq_some_iff.mp scannedOthers
          obtain rfl := eq_between_of_scanByte plain step ends ended
          cases ended
          rw [← sameLast]
          exact Option.map_id'.symm
      rw [List.cons_append, scanFrom_cons_of_step step, behind, Option.map_map, ← same]
      congr 1
      funext more
      exact (List.append_assoc _ _ _).symm

theorem scan?_append
    {front rest : List UInt8}
    {tokens : List Token}
    (scanned : scan? front = some tokens)
    (meet : Meet front rest) :
    scan? (front ++ rest) = (scan? rest).map (tokens ++ ·) := by
  have plain : ScanState.between.IsPlain := trivial
  exact scanFrom_append plain scanned meet

/-- The text is two parts that meet, and each of them has its tokens. -/
def Splits (state : ScanState) (text : List UInt8) (first second : List Token) : Prop :=
  ∃ front rest,
    text = front ++ rest ∧
    scanFrom state [] front = some first ∧
    scan? rest = some second ∧
    Meet front rest

/-- A byte that is no more than one token leaves a text to be split behind it. -/
theorem splits_cons
    {state next : ScanState}
    {byte : UInt8}
    {text : List UInt8}
    {tokens first second : List Token}
    (step : scanByte state byte = some (tokens, next))
    (plainly : tokens = [] ∨
      (∃ token, tokens = [token]) ∧ next = .between ∧ isBoundary byte = true)
    (scanned : scanFrom state [] (byte :: text) = some (first ++ second))
    (nonempty : first ≠ [])
    (others : ∀ {state first}, scanFrom state [] text = some (first ++ second) → first ≠ [] →
      Splits state text first second) :
    Splits state (byte :: text) first second := by
  have further (behind : List Token) (same : tokens ++ behind = first)
      (splits : Splits next text behind second) : Splits state (byte :: text) first second := by
    obtain ⟨front, rest, rfl, isFront, isRest, meet⟩ := splits
    refine ⟨byte :: front, rest, rfl, ?_, isRest, meet.cons byte⟩
    rw [scanFrom_cons_of_step step, isFront, ← same]
    rfl
  rw [scanFrom_cons_of_step step] at scanned
  obtain ⟨more, isMore, same⟩ := Option.map_eq_some_iff.mp scanned
  rcases plainly with rfl | ⟨⟨token, rfl⟩, rfl, ends⟩
  · rw [← List.nil_append more, same] at isMore
    exact further first rfl (others isMore nonempty)
  · obtain ⟨head, behind, rfl⟩ := List.exists_cons_of_ne_nil nonempty
    obtain ⟨rfl, sameMore⟩ := List.cons.inj same
    have moreIs : more = behind ++ second := sameMore
    rw [moreIs] at isMore
    by_cases isLast : behind = []
    · rw [isLast] at isMore ⊢
      exact ⟨[byte], text, rfl, by rw [scanFrom_cons_of_step step]; rfl, isMore,
        .inr (.inl ⟨byte, rfl, ends⟩)⟩
    · exact further behind rfl (others isMore isLast)

/-- Between tokens, a byte ends no other token than the one that it is. -/
theorem plainly_of_beginToken
    {byte : UInt8}
    {tokens : List Token}
    {next : ScanState}
    (begun : beginToken byte = some (tokens, next)) :
    tokens = [] ∨ (∃ token, tokens = [token]) ∧ next = .between ∧ isBoundary byte = true := by
  rw [beginToken] at begun
  split at begun
  · cases begun
    exact .inl rfl
  · split at begun
    · rename_i marks
      cases begun
      exact .inr ⟨⟨_, rfl⟩, rfl, by simp [isBoundary, marks]⟩
    · repeat' split at begun
      all_goals cases begun <;> exact .inl rfl

/-- A byte ends a token that could have ended before it, or it is a token of its own at most. -/
theorem scanByte_cases
    {state next : ScanState}
    {byte : UInt8}
    {tokens : List Token}
    (step : scanByte state byte = some (tokens, next)) :
    (tokens = [] ∨ (∃ token, tokens = [token]) ∧ next = .between ∧ isBoundary byte = true) ∨
      ∃ token behind,
        scanEnd state = some [token] ∧
        isBoundary byte = true ∧
        beginToken byte = some (behind, next) ∧
        tokens = token :: behind := by
  have ending {token : Token} (ended : endToken token byte = some (tokens, next)) :
      isBoundary byte = true ∧
        ∃ behind, beginToken byte = some (behind, next) ∧ tokens = token :: behind := by
    rw [endToken] at ended
    split at ended
    · rename_i ends
      obtain ⟨⟨behind, state⟩, begun, same⟩ := Option.map_eq_some_iff.mp ended
      cases same
      exact ⟨ends, behind, begun, rfl⟩
    · cases ended
  cases state with
  | between => exact .inl (plainly_of_beginToken step)
  | word token remaining =>
    cases remaining with
    | nil =>
      obtain ⟨ends, behind, begun, same⟩ := ending step
      exact .inr ⟨token, behind, rfl, ends, begun, same⟩
    | cons expected rest =>
      rw [scanByte] at step
      split at step <;> cases step
      exact .inl (.inl rfl)
  | number phase written =>
    rw [scanByte] at step
    split at step
    · cases step
      exact .inl (.inl rfl)
    · split at step
      · rename_i complete
        obtain ⟨ends, behind, begun, same⟩ := ending step
        exact .inr ⟨_, behind, if_pos complete, ends, begun, same⟩
      · cases step
  | string written =>
    rw [scanByte] at step
    split at step
    · rename_i quote
      cases step
      exact .inl (.inr ⟨⟨_, rfl⟩, rfl, by simp [isBoundary, quote]⟩)
    · repeat' split at step
      all_goals cases step <;> exact .inl (.inl rfl)
  | escape written =>
    rw [scanByte] at step
    repeat' split at step
    all_goals cases step <;> exact .inl (.inl rfl)
  | codeUnit remaining written =>
    rw [scanByte] at step
    repeat' split at step
    all_goals cases step <;> exact .inl (.inl rfl)

theorem length_le_of_scanEnd
    {state : ScanState}
    {last : List Token}
    (ended : scanEnd state = some last) :
    last.length ≤ 1 := by
  cases state with
  | between =>
    cases ended
    exact Nat.zero_le 1
  | word token remaining =>
    cases remaining <;> cases ended
    exact Nat.le_refl 1
  | number phase written =>
    rw [scanEnd] at ended
    split at ended <;> cases ended
    exact Nat.le_refl 1
  | string written => cases ended
  | escape written => cases ended
  | codeUnit remaining written => cases ended

/-- A text can be split behind any of its tokens. -/
theorem splits_of_scanFrom
    {state : ScanState}
    {text : List UInt8}
    {first second : List Token}
    (scanned : scanFrom state [] text = some (first ++ second))
    (nonempty : first ≠ []) :
    Splits state text first second := by
  induction text generalizing state first with
  | nil =>
    obtain ⟨last, ended, same⟩ := Option.map_eq_some_iff.mp scanned
    obtain rfl : last = first ++ second := same
    have one := length_le_of_scanEnd ended
    have some := List.length_pos_iff.mpr nonempty
    rw [List.length_append] at one
    obtain rfl : second = [] := List.length_eq_zero_iff.mp (by omega)
    rw [List.append_nil] at scanned
    exact ⟨[], [], rfl, scanned, rfl, .inl rfl⟩
  | cons byte text inductionHypothesis =>
    cases step : scanByte state byte with
    | none =>
      rw [scanFrom, step] at scanned
      cases scanned
    | some made =>
      obtain ⟨tokens, next⟩ := made
      rcases scanByte_cases step with plainly | ⟨token, others, ended, ends, begun, rfl⟩
      · exact splits_cons step plainly scanned nonempty inductionHypothesis
      · -- The token could have ended before the byte, from where the reading goes on as from anew.
        have anew : scanByte .between byte = some (others, next) := begun
        have ahead (text : List UInt8) :
            scanFrom state [] (byte :: text) = (scan? (byte :: text)).map (token :: ·) := by
          rw [scanFrom_cons_of_step step, scan?, scanFrom_cons_of_step anew, Option.map_map]
          rfl
        rw [ahead] at scanned
        obtain ⟨more, isMore, same⟩ := Option.map_eq_some_iff.mp scanned
        obtain ⟨head, behind, rfl⟩ := List.exists_cons_of_ne_nil nonempty
        obtain ⟨rfl, rfl⟩ := List.cons.inj same
        by_cases isLast : behind = []
        · rw [isLast] at isMore ⊢
          refine ⟨[], byte :: text, rfl, ?_, isMore, .inr (.inr ⟨byte, rfl, ends⟩)⟩
          rw [scanFrom, ended]
          rfl
        · obtain ⟨front, rest, split, isFront, isRest, meet⟩ :=
            splits_cons anew (plainly_of_beginToken begun) isMore isLast inductionHypothesis
          cases front with
          | nil => exact absurd (Option.some.inj isFront).symm isLast
          | cons first front =>
            obtain ⟨rfl, -⟩ := List.cons.inj split
            refine ⟨byte :: front, rest, split, ?_, isRest, meet⟩
            rw [ahead, scan?, isFront]
            rfl

/-! ## Trees -/

namespace Tree

/-- Tokens behind a value do not change it. -/
theorem finish?_append
    {state : Unfinished}
    {tokens left : List Token}
    {tree : Tree}
    (finished : finish? state tokens = some (tree, left))
    (more : List Token) :
    finish? state (tokens ++ more) = some (tree, left ++ more) := by
  fun_induction finish? state tokens with
  | case1 state => cases finished
  | case2 state token rest next step inductionHypothesis =>
    rw [List.cons_append, finish?, step]
    exact inductionHypothesis finished
  | case3 state token rest whole step =>
    cases finished
    rw [List.cons_append, finish?, step]
  | case4 state token rest step => cases finished

/-- A value has tokens of its own, and it is the same without those behind it. -/
theorem exists_used_of_finish?
    {state : Unfinished}
    {tokens left : List Token}
    {tree : Tree}
    (finished : finish? state tokens = some (tree, left)) :
    ∃ used, tokens = used ++ left ∧ used ≠ [] ∧ finish? state used = some (tree, []) := by
  fun_induction finish? state tokens with
  | case1 state => cases finished
  | case2 state token rest next step inductionHypothesis =>
    obtain ⟨used, rfl, -, ofUsed⟩ := inductionHypothesis finished
    refine ⟨token :: used, rfl, List.cons_ne_nil _ _, ?_⟩
    rw [finish?, step]
    exact ofUsed
  | case3 state token rest whole step =>
    cases finished
    refine ⟨[token], rfl, List.cons_ne_nil _ _, ?_⟩
    rw [finish?, step]
  | case4 state token rest step => cases finished

/-- The values before others go before them. -/
theorem allFrom_eq_map
    (state : Unfinished)
    (begun : Bool)
    (before : List Tree)
    (tokens : List Token) :
    allFrom state begun before tokens =
      (allFrom state begun [] tokens).map (before.reverse ++ ·) := by
  induction tokens generalizing state begun before with
  | nil =>
    rw [allFrom, allFrom]
    split
    · rfl
    · simp
  | cons token rest inductionHypothesis =>
    rw [allFrom, allFrom]
    split
    · exact inductionHypothesis _ true before
    · rename_i tree step
      rw [inductionHypothesis _ false (tree :: before), inductionHypothesis _ false [tree]]
      simp [Function.comp_def]
    · rfl

/-- The values of tokens that begin with a value are that one and those of the tokens left. -/
theorem all?_of_first?
    {tokens left : List Token}
    {tree : Tree}
    (first : first? tokens = some (tree, left)) :
    all? tokens = (all? left).map (tree :: ·) := by
  rw [all?, allFrom_of_finish? first, allFrom_eq_map]
  rfl

end Tree

/-! ## Values -/

/-- A text that is one value has tokens that make one tree. -/
theorem exists_tree_of_parse?
    {text : List UInt8}
    {value : Json}
    (parsed : parse? text = some value) :
    ∃ tokens tree,
      scan? text = some tokens ∧
      Tree.first? tokens = some (tree, []) ∧
      tree.read? depthLimit = some value := by
  simp only [parse?, Option.bind_eq_bind, Option.bind_eq_some_iff] at parsed
  obtain ⟨tokens, scanned, tree, only, read⟩ := parsed
  exact ⟨tokens, tree, scanned, Tree.only?_eq_some_iff.mp only, read⟩

/-- Behind a part of a text that is one value, the values of the other part are read. -/
theorem parseAll?_append
    {front rest : List UInt8}
    {value : Json}
    (parsed : parse? front = some value)
    (meet : Meet front rest) :
    parseAll? (front ++ rest) = (parseAll? rest).map (value :: ·) := by
  obtain ⟨tokens, tree, scanned, first, read⟩ := exists_tree_of_parse? parsed
  rw [parseAll?, parseAll?, scan?_append scanned meet]
  cases scan? rest with
  | none => rfl
  | some others =>
    have behind := Tree.finish?_append first others
    have all : Tree.all? (tokens ++ others) = (Tree.all? others).map (tree :: ·) :=
      Tree.all?_of_first? behind
    change (Tree.all? (tokens ++ others)).bind _ = ((Tree.all? others).bind _).map _
    rw [all]
    cases Tree.all? others with
    | none => rfl
    | some trees =>
      change (tree :: trees).mapM (Tree.read? depthLimit) =
        (trees.mapM (Tree.read? depthLimit)).map (value :: ·)
      rw [List.mapM_cons, read]
      cases trees.mapM (Tree.read? depthLimit) <;> rfl

/-- A text that is read as several values begins with a part that is the first of them. -/
theorem exists_front_of_parseAll?
    {text : List UInt8}
    {value : Json}
    {values : List Json}
    (all : parseAll? text = some (value :: values)) :
    ∃ front rest, text = front ++ rest ∧ parse? front = some value ∧ Meet front rest := by
  simp only [parseAll?, Option.bind_eq_bind, Option.bind_eq_some_iff, mapM_eq_some_iff] at all
  obtain ⟨tokens, scanned, trees, all, each⟩ := all
  obtain ⟨tree, others, read, -, rfl⟩ := List.forall₂_cons_right_iff.mp each
  rcases Tree.allFrom_cases all with ⟨-, -, absent⟩ | ⟨first, left, finished, behind⟩
  · cases absent
  · rw [Tree.allFrom_eq_map] at behind
    obtain ⟨more, -, same⟩ := Option.map_eq_some_iff.mp behind
    obtain ⟨rfl, -⟩ := List.cons.inj same
    obtain ⟨used, rfl, nonempty, ofUsed⟩ := Tree.exists_used_of_finish? finished
    obtain ⟨front, rest, split, isFront, -, meet⟩ := splits_of_scanFrom scanned nonempty
    have only : Tree.only? used = some first := Tree.only?_eq_some_iff.mpr ofUsed
    refine ⟨front, rest, split, ?_, meet⟩
    change (scan? front).bind _ = _
    rw [show scan? front = some used from isFront]
    change (Tree.only? used).bind _ = _
    rw [only]
    exact read

/-- White space does not go on with a number or a word. -/
theorem IsBlank.meet {blank : List UInt8} (isBlank : IsBlank blank) (text : List UInt8) :
    Meet text blank := by
  cases blank with
  | nil => exact .inl rfl
  | cons byte rest =>
    refine .inr (.inr ⟨byte, rfl, ?_⟩)
    rw [isBoundary, isBlank byte List.mem_cons_self, Bool.true_or, Bool.true_or]

/-- The parsers at hand read one value in turn with the next. -/
theorem takeTurns_parsers : parsers.TakeTurns where
  nothing := parseAll?_eq_nil_iff
  front := exists_front_of_parseAll?
  append := parseAll?_append
  trailing := by
    intro text blank value parsed isBlank
    refine parse?_eq_some_iff.mpr ((parseAll?_append parsed (isBlank.meet text)).trans ?_)
    rw [parseAll?_eq_nil_iff.mpr isBlank]
    rfl

end Json
end Holdout
