import Holdout.Json.Document
import Holdout.Proofs.InTurn

/-!
# One value and several

A text is read as one value, or else as any number of values one after the other. The two readings
agree: a text is one value just if that value is all of its values. No value is read just if the text
is white space, for every other byte begins a token, and no token is read in vain.
-/

namespace Holdout
namespace Json

/-! ## Tokens -/

/-- The number of tokens under way. -/
def ScanState.pending : ScanState → Nat
  | .between => 0
  | _ => 1

/-- A byte that is not white space makes a token or begins one. -/
theorem pos_of_beginToken
    {byte : UInt8}
    {tokens : List Token}
    {state : ScanState}
    (begun : beginToken byte = some (tokens, state))
    (written : isSpace byte ≠ true) :
    0 < tokens.length + state.pending := by
  rw [beginToken, if_neg written] at begun
  split at begun
  · cases begun
    exact Nat.one_pos
  · -- Whatever it is, it leaves a token under way.
    repeat' split at begun
    all_goals cases begun <;> exact Nat.one_pos

theorem pos_of_endToken
    {token : Token}
    {byte : UInt8}
    {tokens : List Token}
    {state : ScanState}
    (ended : endToken token byte = some (tokens, state)) :
    0 < tokens.length := by
  rw [endToken] at ended
  split at ended
  · obtain ⟨next, -, same⟩ := Option.map_eq_some_iff.mp ended
    rw [← (Prod.mk.inj same).1]
    exact Nat.succ_pos _
  · cases ended

/-- A token under way goes on or is there. -/
theorem pending_le_of_scanByte
    {state next : ScanState}
    {byte : UInt8}
    {tokens : List Token}
    (scanned : scanByte state byte = some (tokens, next)) :
    state.pending ≤ tokens.length + next.pending := by
  cases state with
  | between => exact Nat.zero_le _
  | word token remaining =>
    cases remaining with
    | nil => exact Nat.le_add_right_of_le (pos_of_endToken scanned)
    | cons expected rest =>
      rw [scanByte] at scanned
      split at scanned <;> cases scanned
      exact Nat.le_refl 1
  | number phase written =>
    rw [scanByte] at scanned
    split at scanned
    · cases scanned
      exact Nat.le_refl 1
    · split at scanned
      · exact Nat.le_add_right_of_le (pos_of_endToken scanned)
      · cases scanned
  | string written =>
    rw [scanByte] at scanned
    repeat' split at scanned
    all_goals cases scanned <;> exact Nat.le_refl 1
  | escape written =>
    rw [scanByte] at scanned
    repeat' split at scanned
    all_goals cases scanned <;> exact Nat.le_refl 1
  | codeUnit remaining written =>
    rw [scanByte] at scanned
    repeat' split at scanned
    all_goals cases scanned <;> exact Nat.le_refl 1

theorem pending_le_of_scanEnd
    {state : ScanState}
    {last : List Token}
    (ended : scanEnd state = some last) :
    state.pending ≤ last.length := by
  cases state with
  | between => exact Nat.zero_le _
  | word token remaining =>
    cases remaining <;> cases ended
    exact Nat.le_refl 1
  | number phase written =>
    rw [scanEnd] at ended
    split at ended <;> cases ended
    exact Nat.le_refl 1
  | string written => cases ended
  | escape written => cases ended
  | codeUnit remaining written => cases ended

/-- Tokens that are there or under way are among those of the text. -/
theorem length_le_of_scanFrom
    {state : ScanState}
    {before tokens : List Token}
    {text : List UInt8}
    (scanned : scanFrom state before text = some tokens) :
    before.length + state.pending ≤ tokens.length := by
  fun_induction scanFrom state before text with
  | case1 state before =>
    obtain ⟨last, ended, same⟩ := Option.map_eq_some_iff.mp scanned
    have less := pending_le_of_scanEnd ended
    rw [← same, List.length_append, List.length_reverse]
    omega
  | case2 state before byte rest made next step inductionHypothesis =>
    have less := pending_le_of_scanByte step
    have more := inductionHypothesis scanned
    rw [List.length_append, List.length_reverse] at more
    omega
  | case3 state before byte rest step => cases scanned

/-- A text has no tokens just if it is white space. -/
theorem scan?_eq_nil_iff {text : List UInt8} :
    scan? text = some [] ↔ ∀ byte ∈ text, isSpace byte = true := by
  rw [scan?]
  induction text with
  | nil => exact ⟨fun _ _ member => (List.not_mem_nil member).elim, fun _ => rfl⟩
  | cons byte rest inductionHypothesis =>
    rw [List.forall_mem_cons, ← inductionHypothesis, scanFrom, scanByte]
    by_cases blank : isSpace byte = true
    · rw [beginToken, if_pos blank]
      exact (and_iff_right blank).symm
    · constructor
      · intro scanned
        split at scanned
        · rename_i tokens next begun
          have made := pos_of_beginToken begun blank
          have kept := length_le_of_scanFrom scanned
          rw [List.length_append, List.length_reverse, List.length_nil] at kept
          omega
        · cases scanned
      · rintro ⟨isBlank, -⟩
        exact absurd isBlank blank

/-! ## Trees -/

namespace Tree

/-- Behind a value, the values of the tokens that are left are read. -/
theorem allFrom_of_finish?
    {state : Unfinished}
    {tokens left : List Token}
    {tree : Tree}
    (finished : finish? state tokens = some (tree, left))
    (begun : Bool)
    (before : List Tree) :
    allFrom state begun before tokens = allFrom .start false (tree :: before) left := by
  fun_induction finish? state tokens generalizing begun with
  | case1 state => cases finished
  | case2 state token rest next step inductionHypothesis =>
    rw [allFrom, step]
    exact inductionHypothesis finished true
  | case3 state token rest whole step =>
    cases finished
    rw [allFrom, step]
  | case4 state token rest step => cases finished

/-- Either there are no more tokens, or there is one more value. -/
theorem allFrom_cases
    {state : Unfinished}
    {begun : Bool}
    {before trees : List Tree}
    {tokens : List Token}
    (all : allFrom state begun before tokens = some trees) :
    (tokens = [] ∧ begun = false ∧ trees = before.reverse) ∨
      ∃ tree left, finish? state tokens = some (tree, left) ∧
        allFrom .start false (tree :: before) left = some trees := by
  fun_induction allFrom state begun before tokens with
  | case1 state before => cases all
  | case2 state begun before unbegun =>
    left
    exact ⟨rfl, Bool.eq_false_iff.mpr unbegun, (Option.some.inj all).symm⟩
  | case3 state begun before token rest next step inductionHypothesis =>
    right
    rcases inductionHypothesis all with ⟨-, begun, -⟩ | ⟨tree, left, finished, others⟩
    · cases begun
    · exact ⟨tree, left, by rw [finish?, step]; exact finished, others⟩
  | case4 state begun before token rest tree step inductionHypothesis =>
    right
    exact ⟨tree, rest, by rw [finish?, step], all⟩
  | case5 state begun before token rest step => cases all

/-- Values that have been read are among all values. -/
theorem prefix_of_allFrom
    {state : Unfinished}
    {begun : Bool}
    {before trees : List Tree}
    {tokens : List Token}
    (all : allFrom state begun before tokens = some trees) :
    before.reverse <+: trees := by
  fun_induction allFrom state begun before tokens with
  | case1 state before => cases all
  | case2 state begun before unbegun => exact Option.some.inj all ▸ List.prefix_rfl
  | case3 state begun before token rest next step inductionHypothesis => exact inductionHypothesis all
  | case4 state begun before token rest tree step inductionHypothesis =>
    rw [List.reverse_cons] at inductionHypothesis
    exact (List.prefix_append _ _).trans (inductionHypothesis all)
  | case5 state begun before token rest step => cases all

/-- No value is read just if there are no tokens. -/
theorem all?_eq_nil_iff {tokens : List Token} : all? tokens = some [] ↔ tokens = [] := by
  constructor
  · intro all
    rcases allFrom_cases all with ⟨empty, -, -⟩ | ⟨tree, left, -, others⟩
    · exact empty
    · exact absurd (prefix_of_allFrom others) (by simp)
  · rintro rfl
    rfl

/-- A value is the only one if nothing is left behind it. -/
theorem only?_eq_some_iff {tokens : List Token} {tree : Tree} :
    only? tokens = some tree ↔ first? tokens = some (tree, []) := by
  rw [only?]
  split
  · rename_i whole finished
    rw [finished, Option.some_inj, Option.some_inj, Prod.mk.injEq, and_iff_left rfl]
  · rename_i unfinished
    constructor
    · intro only
      cases only
    · intro finished
      exact absurd finished (unfinished tree)

/-- A value is the only one of the tokens just if it is all of their values. -/
theorem all?_eq_singleton_iff {tokens : List Token} {tree : Tree} :
    all? tokens = some [tree] ↔ only? tokens = some tree := by
  rw [only?_eq_some_iff]
  constructor
  · intro all
    rcases allFrom_cases all with ⟨-, -, absent⟩ | ⟨first, left, finished, others⟩
    · cases absent
    · rcases allFrom_cases others with ⟨empty, -, same⟩ | ⟨second, rest, -, more⟩
      · cases same
        rw [first?, finished, empty]
      · have both := (prefix_of_allFrom more).length_le
        simp at both
  · intro finished
    rw [all?, allFrom_of_finish? finished]
    rfl

end Tree

/-! ## Values -/

/-- A text is one value just if that value is all of its values. -/
theorem parse?_eq_some_iff {text : List UInt8} {value : Json} :
    parse? text = some value ↔ parseAll? text = some [value] := by
  simp only [parse?, parseAll?, Option.bind_eq_bind, Option.bind_eq_some_iff, mapM_eq_some_iff]
  constructor
  · rintro ⟨tokens, scanned, tree, only, read⟩
    exact ⟨tokens, scanned, [tree], Tree.all?_eq_singleton_iff.mpr only, .cons read .nil⟩
  · rintro ⟨tokens, scanned, trees, all, each⟩
    obtain ⟨tree, rest, read, none, same⟩ := List.forall₂_cons_right_iff.mp each
    rw [List.forall₂_nil_right_iff.mp none] at same
    rw [same] at all
    exact ⟨tokens, scanned, tree, Tree.all?_eq_singleton_iff.mp all, read⟩

/-- A text has no values just if it is white space. -/
theorem parseAll?_eq_nil_iff {text : List UInt8} :
    parseAll? text = some [] ↔ ∀ byte ∈ text, isSpace byte = true := by
  rw [← scan?_eq_nil_iff]
  constructor
  · intro all
    simp only [parseAll?, Option.bind_eq_bind, Option.bind_eq_some_iff, mapM_eq_some_iff] at all
    obtain ⟨tokens, scanned, trees, all, each⟩ := all
    rw [List.forall₂_nil_right_iff.mp each] at all
    rw [scanned, Tree.all?_eq_nil_iff.mp all]
  · intro scanned
    rw [parseAll?, scanned]
    rfl

end Json
end Holdout
