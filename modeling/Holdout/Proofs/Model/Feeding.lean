import Mathlib.Data.List.Forall2
import Mathlib.Order.Nat
import Mathlib.Tactic.Tauto
import Holdout.Model.Engine
import Holdout.Proofs.NameMap
import Holdout.Proofs.Transform

/-!
# Feeding a model

The inputs of a model are taken out of a binding one after the other, in the model's order. An input
lacks a value if the binding has none under its name, or if an input before it takes that one. The
first input that lacks a value ends the taking. If there is none, each input is given what the binding
holds under its name, and a binding can only be rejected for names that no input has. So a binding is
taken just if it passes the check of its names.
-/

namespace Holdout

/-- The input at a place lacks a value: the binding has none under its name, or an earlier input of
that name takes it. -/
def Lacks (names : List String) (binding : InputBinding) (place : Nat) : Prop :=
  ∃ name, names[place]? = some name ∧ (name ∉ binding.names ∨ name ∈ names.take place)

section Taking

variable {name : String} {names before rest : List String} {binding left : InputBinding}
  {tensor : Tensor} {tensors : List Tensor}

/-- An input whose name the binding does not have ends the taking. -/
theorem takeInputs_cons_of_missing (missing : name ∉ binding.names) (rest : List String) :
    takeInputs (name :: rest) binding = .error (.missingInput name) := by
  have absent : binding.find? name = none := by
    rw [NameMap.mem_names_iff, Option.not_isSome_iff_eq_none] at missing
    exact missing
  rw [takeInputs, absent]

/-- An input whose name the binding has takes its tensor away. -/
theorem takeInputs_cons_of_found (found : binding.find? name = some tensor) (rest : List String) :
    takeInputs (name :: rest) binding =
      (takeInputs rest (binding.erase name)).map fun taken => (tensor :: taken.1, taken.2) := by
  rw [takeInputs, found]
  cases takeInputs rest (binding.erase name) <;> rfl

/-- Inputs with different names that the binding has are given what it holds under their names, and
the other names are left. -/
theorem takeInputs_of_nodup
    (distinct : names.Nodup)
    (given : ∀ name ∈ names, name ∈ binding.names) :
    ∃ tensors left,
      takeInputs names binding = .ok (tensors, left) ∧
      List.Forall₂ (fun name tensor => binding.find? name = some tensor) names tensors ∧
      left.names = binding.names.filter fun name => name ∉ names := by
  induction names generalizing binding with
  | nil =>
    refine ⟨[], binding, rfl, .nil, ?_⟩
    simp
  | cons name rest inductionHypothesis =>
    obtain ⟨fresh, distinct⟩ := List.nodup_cons.mp distinct
    obtain ⟨tensor, found⟩ := NameMap.exists_find?_of_mem_names (given name List.mem_cons_self)
    have apart : ∀ other ∈ rest, other ≠ name := fun other among same => fresh (same ▸ among)
    have others : ∀ other ∈ rest, other ∈ (binding.erase name).names := by
      intro other among
      rw [NameMap.mem_names_erase]
      exact ⟨given other (List.mem_cons_of_mem _ among), apart other among⟩
    obtain ⟨tensors, left, taken, holds, remain⟩ := inductionHypothesis distinct others
    have holds : List.Forall₂ (fun other tensor => binding.find? other = some tensor) rest tensors := by
      apply ((List.forall₂_and_left _ _).mpr ⟨apart, holds⟩).imp
      rintro other tensor ⟨different, isGiven⟩
      rwa [NameMap.find?_erase_of_ne different] at isGiven
    refine ⟨tensor :: tensors, left, ?_, .cons found holds, ?_⟩
    · rw [takeInputs_cons_of_found found, taken]
      rfl
    · rw [remain, NameMap.names_erase, List.filter_filter]
      apply List.filter_congr
      intro other _
      simp [Bool.and_comm]

/-- What is taken for more inputs is taken from what the others have left. -/
theorem takeInputs_append
    (taken : takeInputs before binding = .ok (tensors, left))
    (rest : List String) :
    takeInputs (before ++ rest) binding =
      (takeInputs rest left).map fun more => (tensors ++ more.1, more.2) := by
  induction before generalizing binding tensors with
  | nil =>
    obtain ⟨none, same⟩ := Prod.mk.inj (Except.ok.inj taken)
    rw [← none, ← same, List.nil_append]
    cases takeInputs rest binding <;> rfl
  | cons name before inductionHypothesis =>
    by_cases given : name ∈ binding.names
    · obtain ⟨tensor, found⟩ := NameMap.exists_find?_of_mem_names given
      rw [takeInputs_cons_of_found found] at taken
      rw [List.cons_append, takeInputs_cons_of_found found]
      cases others : takeInputs before (binding.erase name) with
      | error failure =>
        rw [others] at taken
        cases taken
      | ok more =>
        rw [others] at taken
        obtain ⟨isFirst, same⟩ := Prod.mk.inj (Except.ok.inj taken)
        have others : takeInputs before (binding.erase name) = .ok (more.1, left) := by
          rw [others, ← same]
        rw [inductionHypothesis others, ← isFirst]
        cases takeInputs rest left <;> rfl
    · rw [takeInputs_cons_of_missing given] at taken
      cases taken

end Taking

section Lacking

variable {names : List String} {binding : InputBinding}

/-- No input lacks a value just if all names are different and the binding has each of them. -/
theorem not_lacks_iff :
    (∀ place, ¬Lacks names binding place) ↔
      names.Nodup ∧ ∀ name ∈ names, name ∈ binding.names := by
  constructor
  · intro supplied
    have given : ∀ name ∈ names, name ∈ binding.names := by
      intro name among
      obtain ⟨place, isName⟩ := List.mem_iff_getElem?.mp among
      by_contra missing
      exact supplied place ⟨name, isName, .inl missing⟩
    refine ⟨?_, given⟩
    rw [List.nodup_iff_pairwise_ne, List.pairwise_iff_getElem]
    intro earlier later inside insideToo before same
    apply supplied later
    refine ⟨names[later], List.getElem?_eq_getElem insideToo, .inr ?_⟩
    exact List.mem_take_iff_getElem.mpr ⟨earlier, by omega, same⟩
  · rintro ⟨distinct, given⟩ place ⟨name, isName, missing | taken⟩
    · exact missing (given name (List.mem_of_getElem? isName))
    · obtain ⟨earlier, before, same⟩ := List.mem_take_iff_getElem.mp taken
      obtain ⟨inside, isName⟩ := List.getElem?_eq_some_iff.mp isName
      have equal := (distinct.getElem_inj_iff).mp (same.trans isName.symm)
      omega

/-- The first input that lacks a value ends the taking. -/
theorem takeInputs_of_isLeast
    {place : Nat}
    {name : String}
    (first : IsLeast {place | Lacks names binding place} place)
    (isName : names[place]? = some name) :
    takeInputs names binding = .error (.missingInput name) := by
  obtain ⟨inside, same⟩ := List.getElem?_eq_some_iff.mp isName
  have split : names = names.take place ++ name :: names.drop (place + 1) := by
    rw [← same, ← List.drop_eq_getElem_cons inside, List.take_append_drop]
  have supplied : ∀ earlier, ¬Lacks (names.take place) binding earlier := by
    rintro earlier ⟨other, isOther, lacking⟩
    rw [List.getElem?_take] at isOther
    split at isOther
    · rename_i before
      rw [List.take_take, min_eq_left before.le] at lacking
      exact absurd (first.2 ⟨other, isOther, lacking⟩) before.not_ge
    · cases isOther
  obtain ⟨distinct, given⟩ := not_lacks_iff.mp supplied
  obtain ⟨tensors, left, taken, -, remain⟩ := takeInputs_of_nodup distinct given
  have missing : name ∉ left.names := by
    obtain ⟨other, isOther, lacking⟩ := first.1
    rw [isName, Option.some.injEq] at isOther
    rw [remain, List.mem_filter, decide_eq_true_iff, isOther]
    tauto
  rw [split, takeInputs_append taken, takeInputs_cons_of_missing missing]
  rfl

/-- Some input is the first that lacks a value, unless none does. -/
theorem exists_isLeast_lacks_or (names : List String) (binding : InputBinding) :
    (∃ place name,
      IsLeast {place | Lacks names binding place} place ∧ names[place]? = some name) ∨
    ∀ place, ¬Lacks names binding place := by
  by_cases lacking : ∃ place, Lacks names binding place
  · left
    classical
    have first := Nat.isLeast_find lacking
    obtain ⟨name, isName, -⟩ := first.1
    exact ⟨Nat.find lacking, name, first, isName⟩
  · right
    exact not_exists.mp lacking

end Lacking

section Feeding

variable {names : List String} {binding : InputBinding}

/-- If no input lacks a value, the binding can only have names that no input has. -/
theorem feedInputs_of_supplied (supplied : ∀ place, ¬Lacks names binding place) :
    ∃ tensors,
      List.Forall₂ (fun name tensor => binding.find? name = some tensor) names tensors ∧
      feedInputs names binding =
        if ∀ name ∈ binding.names, name ∈ names then .ok tensors
        else .error (.surplusInputs (binding.names.filter fun name => name ∉ names)) := by
  obtain ⟨distinct, given⟩ := not_lacks_iff.mp supplied
  obtain ⟨tensors, left, taken, holds, remain⟩ := takeInputs_of_nodup distinct given
  have nothingLeft : left.isEmpty = true ↔ ∀ name ∈ binding.names, name ∈ names := by
    rw [NameMap.isEmpty_eq_true_iff, remain, List.filter_eq_nil_iff]
    simp
  refine ⟨tensors, holds, ?_⟩
  rw [feedInputs, taken, ← remain]
  change (if left.isEmpty = true then _ else _) = _
  simp only [nothingLeft]
  rfl

/-- The first input that lacks a value is told. -/
theorem feedInputs_of_isLeast
    {place : Nat}
    {name : String}
    (first : IsLeast {place | Lacks names binding place} place)
    (isName : names[place]? = some name) :
    feedInputs names binding = .error (.missingInput name) := by
  rw [feedInputs, takeInputs_of_isLeast first isName]
  rfl

/-- Only a binding of exactly the names of the inputs, which are all different, is taken. -/
theorem feedInputs_eq_ok_iff :
    (∃ tensors, feedInputs names binding = .ok tensors) ↔
      names.Nodup ∧ ∀ name, name ∈ names ↔ name ∈ binding.names := by
  constructor
  · rintro ⟨tensors, fed⟩
    rcases exists_isLeast_lacks_or names binding with ⟨place, name, first, isName⟩ | supplied
    · rw [feedInputs_of_isLeast first isName] at fed
      cases fed
    · obtain ⟨_, -, outcome⟩ := feedInputs_of_supplied supplied
      obtain ⟨distinct, given⟩ := not_lacks_iff.mp supplied
      rw [outcome] at fed
      split at fed
      · rename_i known
        exact ⟨distinct, fun name => ⟨given name, known name⟩⟩
      · cases fed
  · rintro ⟨distinct, same⟩
    have supplied := not_lacks_iff.mpr ⟨distinct, fun name => (same name).mp⟩
    obtain ⟨tensors, -, outcome⟩ := feedInputs_of_supplied supplied
    exact ⟨tensors, outcome.trans (if_pos fun name => (same name).mpr)⟩

/-- A binding of exactly the names of a model's inputs can be fed to the model. -/
theorem feedInputs_of_perm (given : names.Perm binding.names) :
    ∃ tensors, feedInputs names binding = .ok tensors :=
  feedInputs_eq_ok_iff.mpr (NameMap.perm_names_iff.mp given)

end Feeding

namespace Model

/-- A model tells the names of its inputs in increasing order. -/
theorem inputNames_perm (model : Model) :
    model.engine.inputNames.Perm (model.inputs.map Prod.fst) :=
  sortedNames_perm _

/-- A model takes just the bindings that pass the check of its names: its names are all different,
and the binding has each of them and no others. Each input is given what the binding holds under its
name, in whatever order the binding was put together. Of a binding that is not taken, the first input
that lacks a value is told, and what the binding has in surplus only if there is no such input. -/
theorem feeding_agrees_with_check (model : Model) (binding : InputBinding) :
    (checkNames model.engine.inputNames binding = .ok () ↔
      ∃ tensors, feedInputs (model.inputs.map Prod.fst) binding = .ok tensors) ∧
    ((∃ tensors, feedInputs (model.inputs.map Prod.fst) binding = .ok tensors) ↔
      (model.inputs.map Prod.fst).Nodup ∧
        ∀ name, name ∈ model.inputs.map Prod.fst ↔ name ∈ binding.names) ∧
    (∀ tensors, feedInputs (model.inputs.map Prod.fst) binding = .ok tensors →
      List.Forall₂ (fun name tensor => binding.find? name = some tensor)
        (model.inputs.map Prod.fst) tensors ∧
      ∀ pairs, pairs.Perm binding.entries →
        feedInputs (model.inputs.map Prod.fst) (NameMap.ofList pairs) = .ok tensors) ∧
    (∀ failure, feedInputs (model.inputs.map Prod.fst) binding = .error failure →
      (∃ place name,
        IsLeast {place | Lacks (model.inputs.map Prod.fst) binding place} place ∧
        (model.inputs.map Prod.fst)[place]? = some name ∧
        failure = .missingInput name) ∨
      ((∀ place, ¬Lacks (model.inputs.map Prod.fst) binding place) ∧
        (∃ name ∈ binding.names, name ∉ model.inputs.map Prod.fst) ∧
        failure = .surplusInputs
          (binding.names.filter fun name => name ∉ model.inputs.map Prod.fst))) := by
  refine ⟨?_, feedInputs_eq_ok_iff, ?_, ?_⟩
  · rw [checkNames_eq_ok_iff, model.inputNames_perm.congr_left, NameMap.perm_names_iff, feedInputs_eq_ok_iff]
  · intro tensors fed
    have supplied : ∀ place, ¬Lacks (model.inputs.map Prod.fst) binding place := by
      obtain ⟨distinct, same⟩ := feedInputs_eq_ok_iff.mp ⟨tensors, fed⟩
      exact not_lacks_iff.mpr ⟨distinct, fun name => (same name).mp⟩
    obtain ⟨given, holds, outcome⟩ := feedInputs_of_supplied supplied
    rw [outcome] at fed
    split at fed
    · refine ⟨Except.ok.inj fed ▸ holds, ?_⟩
      intro pairs same
      rw [NameMap.ofList_eq_of_perm same, outcome, ← fed]
      exact if_pos ‹_›
    · cases fed
  · intro failure failed
    rcases exists_isLeast_lacks_or (model.inputs.map Prod.fst) binding with
      ⟨place, name, first, isName⟩ | supplied
    · left
      rw [feedInputs_of_isLeast first isName] at failed
      exact ⟨place, name, first, isName, (Except.error.inj failed).symm⟩
    · right
      obtain ⟨given, -, outcome⟩ := feedInputs_of_supplied supplied
      rw [outcome] at failed
      split at failed
      · cases failed
      · rename_i unknown
        simp only [not_forall, exists_prop] at unknown
        exact ⟨supplied, unknown, (Except.error.inj failed).symm⟩

/-- A model of two inputs that gives nothing. -/
def ofTwoInputs (first second : String) : Model where
  inputs := [(first, [1]), (second, [1])]
  outputs := []
  plan _ := some []

/-- A tensor under each of two names. -/
def underTwoNames (first second : String) (tensor other : Tensor) : InputBinding :=
  (NameMap.empty.insert first tensor).insert second other

/-- The inputs are given their values in the order of the model, and each value only once. -/
theorem ofTwoInputs_feeding :
    feedInputs ["words", "mask"] (underTwoNames "mask" "words" (.zeros .f32 [1]) (.zeros .u8 [1])) =
        .ok [.zeros .u8 [1], .zeros .f32 [1]] ∧
      checkNames (ofTwoInputs "words" "mask").engine.inputNames
        (underTwoNames "mask" "words" (.zeros .f32 [1]) (.zeros .u8 [1])) = .ok () ∧
      checkNames (ofTwoInputs "words" "words").engine.inputNames
        (underTwoNames "mask" "words" (.zeros .f32 [1]) (.zeros .u8 [1])) ≠ .ok () := by
  have fed : feedInputs ["words", "mask"]
      (underTwoNames "mask" "words" (.zeros .f32 [1]) (.zeros .u8 [1])) =
        .ok [.zeros .u8 [1], .zeros .f32 [1]] := by rfl
  refine ⟨fed, (feeding_agrees_with_check (ofTwoInputs "words" "mask") _).1.mpr ⟨_, fed⟩, ?_⟩
  rw [Ne, (feeding_agrees_with_check (ofTwoInputs "words" "words") _).1,
    (feeding_agrees_with_check (ofTwoInputs "words" "words") _).2.1]
  exact fun taken => absurd taken.1 (by decide)

end Model
end Holdout
