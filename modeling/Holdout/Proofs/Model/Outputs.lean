import Holdout.Model.Draft
import Holdout.Proofs.InTurn
import Holdout.Proofs.Model.Naming
import Holdout.Proofs.NameMap

/-!
# Outputs under cleaned names

A run makes one tensor for each output and gives them away under the cleaned names. The last of several
outputs with one cleaned name is the only one that is found, so nothing is lost just if no two names
clash.
-/

namespace Holdout

theorem eq_some_of_orUnsound {value? : Option α} {value : α} (sound : orUnsound value? = .ok value) :
    value? = some value := by
  cases value? with
  | none => cases sound
  | some held => rw [Except.ok.inj sound]

namespace Model

/-- The outputs of a typed model keep their order under cleaned names. -/
theorem map_fst_outputs_ofTyped (typed : TypedModel) :
    (ofTyped typed).outputs.map Prod.fst = (typed.outputs.map Prod.fst).map cleanName := by
  rw [ofTyped, List.map_map, List.map_map]
  rfl

/-- A run that succeeds has made tensors for the outputs. -/
theorem exists_results_of_run
    {model : Model}
    {binding : InputBinding}
    {outputs : Outputs}
    (ran : model.run binding = .ok outputs) :
    ∃ tensors results,
      feedInputs (model.inputs.map Prod.fst) binding = .ok tensors ∧
      model.plan tensors = some results ∧
      outputs = NameMap.ofList ((model.outputs.map Prod.fst).zip results) := by
  rw [run] at ran
  cases fed : feedInputs (model.inputs.map Prod.fst) binding with
  | error failure =>
    rw [fed] at ran
    cases ran
  | ok tensors =>
    rw [fed] at ran
    dsimp only [bind, Except.bind] at ran
    cases made : model.plan tensors with
    | none =>
      rw [made] at ran
      cases ran
    | some results =>
      rw [made] at ran
      exact ⟨tensors, results, rfl, made, (Except.ok.inj ran).symm⟩

end Model

/-- Every output has an entry of its own, with the tensor that was made for it. -/
structure KeepsOutputs (names : List String) (results : List Tensor) (outputs : Outputs) :
    Prop where
  size : outputs.size = names.length
  each : ∀ (place : Nat) (name : String), names[place]? = some name →
    outputs.find? name = results[place]?

section GivenAway

variable {names : List String} {results : List Tensor}

/-- Under the last of several outputs with one name its own tensor is found. -/
theorem find?_zip_of_last
    (aligned : results.length = names.length)
    {place : Nat}
    {name : String}
    (isName : names[place]? = some name)
    (last : ∀ later, place < later → names[later]? ≠ some name) :
    (NameMap.ofList (names.zip results)).find? name = results[place]? := by
  obtain ⟨inside, -⟩ := List.getElem?_eq_some_iff.mp isName
  have made : results[place]? = some results[place] := List.getElem?_eq_getElem (by omega)
  rw [made]
  refine NameMap.find?_ofList_of_getElem?
    (List.getElem?_zip_eq_some.mpr ⟨isName, made⟩) ?_
  rw [List.map_drop, List.map_fst_zip (Nat.le_of_eq aligned.symm)]
  intro member
  obtain ⟨further, isFurther⟩ := List.mem_iff_getElem?.mp member
  rw [List.getElem?_drop] at isFurther
  exact last (place + 1 + further) (by omega) isFurther

/-- Nothing is lost just if the names are pairwise different. -/
theorem keepsOutputs_zip_iff (aligned : results.length = names.length) :
    KeepsOutputs names results (NameMap.ofList (names.zip results)) ↔ names.Nodup := by
  have length : (names.zip results).length = names.length := by
    rw [List.length_zip, aligned, Nat.min_self]
  have sameNames : (names.zip results).map Prod.fst = names :=
    List.map_fst_zip (Nat.le_of_eq aligned.symm)
  constructor
  · intro keeps
    rw [← sameNames, ← NameMap.size_ofList_eq_length_iff, length]
    exact keeps.size
  · intro distinct
    refine ⟨?_, ?_⟩
    · rw [← length, NameMap.size_ofList_eq_length_iff, sameNames]
      exact distinct
    · intro place name isName
      apply find?_zip_of_last aligned isName
      intro later behind isLater
      obtain ⟨inside, -⟩ := List.getElem?_eq_some_iff.mp isName
      have equal := (List.getElem?_inj inside distinct).mp (isName.trans isLater.symm)
      omega

end GivenAway

namespace Model

/-- A run that succeeds makes a tensor for each output and gives them away under the cleaned names, of
which the last one of several counts. Every output has an entry of its own, with the tensor that was
made for it, just if no two names of outputs clash. -/
theorem run_keeps_outputs_iff
    {typed : TypedModel}
    {binding : InputBinding}
    {outputs : Outputs}
    (ran : (ofTyped typed).run binding = .ok outputs) :
    ∃ tensors results,
      feedInputs ((ofTyped typed).inputs.map Prod.fst) binding = .ok tensors ∧
      typed.run? tensors = some results ∧
      results.length = (ofTyped typed).outputs.length ∧
      (∀ (place : Nat) (name : String),
        ((ofTyped typed).outputs.map Prod.fst)[place]? = some name →
        (∀ later, place < later →
          ((ofTyped typed).outputs.map Prod.fst)[later]? ≠ some name) →
        outputs.find? name = results[place]?) ∧
      (KeepsOutputs ((ofTyped typed).outputs.map Prod.fst) results outputs ↔
        (typed.outputs.map Prod.fst).Pairwise fun one other => ¬NamesClash one other) := by
  have cleaned := map_fst_outputs_ofTyped typed
  obtain ⟨tensors, results, fed, made, given⟩ := exists_results_of_run ran
  have aligned : results.length = ((ofTyped typed).outputs.map Prod.fst).length := by
    rw [cleaned, List.length_map, List.length_map]
    exact typed.length_of_run? made
  refine ⟨tensors, results, fed, made, aligned.trans (List.length_map _), ?_, ?_⟩
  · intro place name isName last
    rw [given]
    exact find?_zip_of_last aligned isName last
  · rw [given, keepsOutputs_zip_iff aligned, cleaned, nodup_map_cleanName_iff]

/-- A graph that gives its two inputs as they are, under two names. -/
def forked (first second : String) : Graph :=
  .passThrough
    [⟨"x", ⟨.numbers .u8, [.fixed 1]⟩⟩, ⟨"y", ⟨.numbers .u8, [.fixed 1]⟩⟩]
    [(0, some first), (1, some second)]

/-- A tensor of one byte. -/
def oneByte (value : UInt8) : Tensor := ⟨[1], .u8 #[value], rfl⟩

/-- One byte for each of the two inputs. -/
def twoBytes : InputBinding :=
  (NameMap.empty.insert "x" (oneByte 1)).insert "y" (oneByte 2)

/-- The typed model of a graph that gives its two inputs as they are. -/
def forkedTyped (first second : String) : TypedModel where
  inputs := (forked first second).inputs
  outputs := [(first, ⟨.numbers .u8, [.fixed 1]⟩), (second, ⟨.numbers .u8, [.fixed 1]⟩)]
  run? := (forked first second).run?
  length_of_run? := Graph.length_of_run?

/-- The model of a graph that gives its two inputs as they are. -/
def forkedModel (first second : String) : Model := ofTyped (forkedTyped first second)

/-- Two outputs of which no name clashes with the other's are both there. -/
theorem forked_keeps_outputs :
    (ofGraph (forked "logits_0" "boxes:0")).value = .ok (forkedModel "logits_0" "boxes:0") ∧
      ∃ outputs results,
        (forkedModel "logits_0" "boxes:0").run twoBytes = .ok outputs ∧
        (forked "logits_0" "boxes:0").run? [oneByte 1, oneByte 2] = some results ∧
        KeepsOutputs ["logits", "boxes"] results outputs := by
  have ran : (forkedModel "logits_0" "boxes:0").run twoBytes =
      .ok ((NameMap.empty.insert "logits" (oneByte 1)).insert "boxes" (oneByte 2)) := by rfl
  have fed : feedInputs ((forkedModel "logits_0" "boxes:0").inputs.map Prod.fst) twoBytes =
      .ok [oneByte 1, oneByte 2] := by rfl
  have apart : ¬NamesClash "logits_0" "boxes:0" := by
    rw [← cleanName_eq_cleanName_iff]
    decide
  obtain ⟨tensors, results, fedToo, made, -, -, keeps⟩ := run_keeps_outputs_iff ran
  rw [← Except.ok.inj (fed.symm.trans fedToo)] at made
  exact ⟨rfl, _, results, ran, made, keeps.mpr (List.pairwise_pair.mpr apart)⟩

/-- Two outputs of one operator have different names, and become one. -/
theorem forked_loses_output :
    ((forked "split:0" "split:1").outputs.map GraphOutput.name).Nodup ∧
      (ofGraph (forked "split:0" "split:1")).value = .ok (forkedModel "split:0" "split:1") ∧
      (forkedModel "split:0" "split:1").run twoBytes =
        .ok (NameMap.empty.insert "split" (oneByte 2)) ∧
      (forked "split:0" "split:1").run? [oneByte 1, oneByte 2] = some [oneByte 1, oneByte 2] ∧
      ¬KeepsOutputs ["split", "split"] [oneByte 1, oneByte 2]
        (NameMap.empty.insert "split" (oneByte 2)) := by
  refine ⟨by decide, by rfl, by rfl, by rfl, ?_⟩
  intro keeps
  exact absurd keeps.size (by decide)

end Model
end Holdout
