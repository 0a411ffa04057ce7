import Holdout.Proofs.Model.Feeding
import Holdout.Proofs.Model.Outputs

/-!
# Inputs under cleaned names

A model takes its inputs under cleaned names. If no two names of inputs clash, there is a
binding for any tensors, one for each input. If two of them clash, the model is prepared all the same
and tells one name twice, but no binding is taken: the first input of that name takes what is bound to
it, and the second lacks a value.
-/

namespace Holdout

section Names

variable {names : List String} {binding : InputBinding} {tensors : List Tensor}

/-- What is fed to the inputs is what the binding holds under their names. -/
theorem forall₂_of_feedInputs (fed : feedInputs names binding = .ok tensors) :
    List.Forall₂ (fun name tensor => binding.find? name = some tensor) names tensors := by
  obtain ⟨distinct, same⟩ := feedInputs_eq_ok_iff.mp ⟨tensors, fed⟩
  have supplied := not_lacks_iff.mpr ⟨distinct, fun name => (same name).mp⟩
  obtain ⟨given, holds, outcome⟩ := feedInputs_of_supplied supplied
  rw [outcome, if_pos fun name => (same name).mpr] at fed
  rwa [← Except.ok.inj fed]

/-- Tensors that are bound to different names are fed in the order of the names. -/
theorem feedInputs_zip (distinct : names.Nodup) (aligned : tensors.length = names.length) :
    feedInputs names (NameMap.ofList (names.zip tensors)) = .ok tensors := by
  have sameNames : (names.zip tensors).map Prod.fst = names :=
    List.map_fst_zip (Nat.le_of_eq aligned.symm)
  have given (name : String) : name ∈ names ↔ name ∈ (NameMap.ofList (names.zip tensors)).names := by
    rw [NameMap.mem_names_ofList, sameNames]
  obtain ⟨fed, isFed⟩ := feedInputs_eq_ok_iff.mpr ⟨distinct, given⟩
  have bound : List.Forall₂
      (fun name tensor => (NameMap.ofList (names.zip tensors)).find? name = some tensor)
      names tensors := by
    refine List.forall₂_iff_zip.mpr ⟨aligned.symm, fun {name tensor} member => ?_⟩
    exact NameMap.find?_ofList_of_mem (sameNames.symm ▸ distinct) member
  have unique : Relator.RightUnique fun (name : String) (tensor : Tensor) =>
      (NameMap.ofList (names.zip tensors)).find? name = some tensor :=
    fun _ _ _ found foundToo => Option.some.inj (found.symm.trans foundToo)
  rw [isFed, List.right_unique_forall₂' unique (forall₂_of_feedInputs isFed) bound]

/-- If a name stands twice, some input lacks a value, whatever is bound. -/
theorem feedInputs_of_not_nodup (repeated : ¬names.Nodup) (binding : InputBinding) :
    ∃ name ∈ names, feedInputs names binding = .error (.missingInput name) := by
  rcases exists_isLeast_lacks_or names binding with ⟨place, name, first, isName⟩ | supplied
  · exact ⟨name, List.mem_of_getElem? isName, feedInputs_of_isLeast first isName⟩
  · exact absurd (not_lacks_iff.mp supplied).1 repeated

end Names

namespace Model

/-- The inputs of a typed model keep their order under cleaned names. -/
theorem map_fst_inputs_ofTyped (typed : TypedModel) :
    (ofTyped typed).inputs.map Prod.fst = (typed.inputs.map ModelInput.name).map cleanName := by
  rw [ofTyped, List.map_map, List.map_map]
  rfl

/-- The names of a model's inputs are different just if no two names clash before they are cleaned. Then
any tensors, one for each input, can be fed by some binding. Otherwise every run of the model fails,
because an input lacks a value. -/
theorem takes_bindings_iff (typed : TypedModel) :
    ((ofTyped typed).engine.inputNames.Nodup ↔
      (typed.inputs.map ModelInput.name).Pairwise fun one other => ¬NamesClash one other) ∧
    ((ofTyped typed).engine.inputNames.Nodup →
      ∀ tensors : List Tensor, tensors.length = typed.inputs.length →
        ∃ binding, feedInputs ((ofTyped typed).inputs.map Prod.fst) binding = .ok tensors) ∧
    (¬(ofTyped typed).engine.inputNames.Nodup →
      ∀ binding, ∃ name ∈ (ofTyped typed).engine.inputNames,
        (ofTyped typed).run binding = .error (.missingInput name)) := by
  have cleaned := map_fst_inputs_ofTyped typed
  have sorted := (ofTyped typed).inputNames_perm
  refine ⟨?_, ?_, ?_⟩
  · rw [sorted.nodup_iff, cleaned, nodup_map_cleanName_iff]
  · intro distinct tensors aligned
    refine ⟨_, feedInputs_zip (sorted.nodup_iff.mp distinct) ?_⟩
    rw [cleaned, List.length_map, List.length_map, aligned]
  · intro repeated binding
    obtain ⟨name, member, failed⟩ :=
      feedInputs_of_not_nodup (mt sorted.nodup_iff.mpr repeated) binding
    refine ⟨name, sorted.mem_iff.mpr member, ?_⟩
    rw [run, failed]
    rfl

/-- A graph that gives its two inputs as they are, under names of their own. -/
def paired (first second : String) : Graph :=
  .passThrough
    [⟨first, ⟨.numbers .u8, [.fixed 1]⟩⟩, ⟨second, ⟨.numbers .u8, [.fixed 1]⟩⟩]
    [(0, some "words"), (1, some "mask")]

/-- The typed model of a graph that gives its two inputs as they are. -/
def pairedTyped (first second : String) : TypedModel where
  inputs := (paired first second).inputs
  outputs := [("words", ⟨.numbers .u8, [.fixed 1]⟩), ("mask", ⟨.numbers .u8, [.fixed 1]⟩)]
  run? := (paired first second).run?
  length_of_run? := Graph.length_of_run?

/-- The model of a graph that gives its two inputs as they are. -/
def pairedModel (first second : String) : Model := ofTyped (pairedTyped first second)

/-- Two inputs of which no name clashes with the other's are both given a tensor. -/
theorem paired_takes_binding :
    (ofGraph (paired "split_0" "split_1:0")).value = .ok (pairedModel "split_0" "split_1:0") ∧
      (pairedModel "split_0" "split_1:0").engine.inputNames = ["split", "split_1"] ∧
      ∃ binding, feedInputs ["split", "split_1"] binding = .ok [oneByte 1, oneByte 2] := by
  have names : (pairedModel "split_0" "split_1:0").engine.inputNames = ["split", "split_1"] :=
    sortedNames_of_pairwise (by decide)
  have distinct : (pairedModel "split_0" "split_1:0").engine.inputNames.Nodup := by
    rw [names]
    decide
  exact ⟨rfl, names, (takes_bindings_iff _).2.1 distinct [oneByte 1, oneByte 2] rfl⟩

/-- Two inputs with different names have one name in the end. The model is prepared, but takes no
binding, and is said to have no value for an input that has one. -/
theorem paired_takes_no_binding :
    ((paired "split:0" "split:1").inputs.map ModelInput.name).Nodup ∧
      (ofGraph (paired "split:0" "split:1")).value = .ok (pairedModel "split:0" "split:1") ∧
      (pairedModel "split:0" "split:1").engine.inputNames = ["split", "split"] ∧
      (¬∃ binding tensors, feedInputs ["split", "split"] binding = .ok tensors) ∧
      (pairedModel "split:0" "split:1").run (NameMap.empty.insert "split" (oneByte 1)) =
        .error (.missingInput "split") := by
  refine ⟨by decide, by rfl, sortedNames_of_pairwise (by decide), ?_, by rfl⟩
  rintro ⟨binding, tensors, fed⟩
  exact absurd (feedInputs_eq_ok_iff.mp ⟨tensors, fed⟩).1 (by decide)

end Model
end Holdout
