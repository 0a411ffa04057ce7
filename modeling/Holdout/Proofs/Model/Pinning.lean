import Holdout.Proofs.Model.Hints

/-!
# The size of a batch

Before a draft is typed, the leading size of each of its inputs is pinned: to the number that it is, and
to one otherwise. All else stays, also a symbol that stands for the leading size of one input and for a
size of another. If all that is said of the inputs is kept when the draft is typed, the model tells each
input with the size of its batch in front, although sizes that are no numbers are left out.
-/

namespace Holdout

/-- The size of a batch, by the leading size of an input. -/
def Dim.batch : Dim → Int
  | .fixed size => size
  | _ => 1

/-- The leading size is that of a batch, and the other sizes are as they were. -/
structure IsPinned (before after : List Dim) : Prop where
  rank : after.length = before.length
  leading : after.head? = before.head?.map fun dim => .fixed dim.batch
  others : after.tail = before.tail

theorem isPinned_pinLeading (dims : List Dim) : IsPinned dims (pinLeading dims) := by
  cases dims with
  | nil => exact ⟨rfl, rfl, rfl⟩
  | cons leading rest => cases leading <;> exact ⟨rfl, rfl, rfl⟩

theorem IsPinned.head?_eq {before after : List Dim} {leading : Dim}
    (pinned : IsPinned before after)
    (isLeading : before.head? = some leading) :
    after.head? = some (.fixed leading.batch) := by
  rw [pinned.leading, isLeading, Option.map_some]

theorem pinLeading_of_fixed {dims : List Dim} {size : Int} (leading : dims.head? = some (.fixed size)) :
    pinLeading dims = dims := by
  cases dims with
  | nil => cases leading
  | cons first rest =>
    rw [List.head?_cons, Option.some_inj] at leading
    rw [leading]
    rfl

@[simp]
theorem pinLeading_pinLeading (dims : List Dim) : pinLeading (pinLeading dims) = pinLeading dims := by
  cases dims with
  | nil => rfl
  | cons leading rest =>
    exact pinLeading_of_fixed ((isPinned_pinLeading (leading :: rest)).head?_eq rfl)

/-- A shape that is told begins with the size of the batch, as a word. -/
def BeginsWithBatch (dims : List Dim) (shape : List Nat) : Prop :=
  ∀ leading, dims.head? = some leading →
    shape.head? = some (leading.batch % Word.limit).toNat ∧
    (0 ≤ leading.batch → leading.batch < Word.limit → shape.head? = some leading.batch.toNat)

theorem TensorFact.head?_shape {fact : TensorFact} {size : Int}
    (leading : fact.dims.head? = some (.fixed size)) :
    fact.shape.head? = some (size % Word.limit).toNat := by
  obtain ⟨rest, split⟩ := List.head?_eq_some_iff.mp leading
  rw [shape, split]
  rfl

/-- Where the leading size that is known is that of a batch, it is told in front. -/
theorem TensorFact.beginsWithBatch {dims : List Dim} {fact : TensorFact}
    (pinned : ∀ leading, dims.head? = some leading →
      fact.dims.head? = some (.fixed leading.batch)) :
    BeginsWithBatch dims fact.shape := by
  intro leading isLeading
  have told := head?_shape (pinned leading isLeading)
  refine ⟨told, fun nonneg small => ?_⟩
  rwa [Int.emod_eq_of_lt nonneg small] at told

/-- The sizes of a hint are pinned, if there are any, and its kind is as it was. -/
structure Hint.IsPinned (before after : Hint) : Prop where
  type : after.type = before.type
  dims : Option.Rel Holdout.IsPinned before.dims after.dims

theorem Hint.isPinned_pinned (hint : Hint) : hint.IsPinned hint.pinned := by
  refine ⟨rfl, ?_⟩
  rw [pinned]
  cases hint.dims with
  | none => exact .none
  | some dims => exact .some (isPinned_pinLeading dims)

@[simp]
theorem Hint.pinned_pinned (hint : Hint) : hint.pinned.pinned = hint.pinned := by
  cases hint with
  | mk type dims => cases dims <;> simp [pinned]

namespace Draft

/-- All that drafts say of their inputs is known of them when they have been typed. -/
def KeepsInputs (type : Draft β → Except Failure TypedModel) : Prop :=
  ∀ draft typed, type draft = .ok typed →
    List.Forall₂ (fun (input : String × Nat) (found : ModelInput) =>
        found.name = input.1 ∧ (hintAt draft.hints input.2).KeptBy (.ofFact found.fact))
      draft.inputs typed.inputs

/-- Pinning the batch of a draft's inputs does that and nothing else, and the model that is made with
`type` tells of it. -/
structure PinsBatch (draft : Draft β) (type : Draft β → Except Failure TypedModel) : Prop where
  frame : { draft.pinned with hints := draft.hints } = draft
  count : draft.pinned.hints.size = draft.hints.size
  inputs : ∀ place ∈ draft.inputs.map Prod.snd,
    (hintAt draft.hints place).IsPinned (hintAt draft.pinned.hints place)
  others : ∀ place ∉ draft.inputs.map Prod.snd,
    hintAt draft.pinned.hints place = hintAt draft.hints place
  again : draft.pinned.pinned = draft.pinned
  told : ∀ model, (Model.ofDraft type draft).value = .ok model →
    List.Forall₂ (fun (input : String × Nat) (entry : String × List Nat) =>
        entry.1 = cleanName input.1 ∧
        ∀ dims, (hintAt draft.hints input.2).dims = some dims → BeginsWithBatch dims entry.2)
      draft.inputs model.inputs

/-- A value without a hint has nothing that could be pinned. -/
theorem hintAt_pinAt (hints : Array Hint) (place other : Nat) :
    hintAt (hints.setIfInBounds place (hintAt hints place).pinned) other =
      if other = place then (hintAt hints other).pinned else hintAt hints other := by
  rw [hintAt_setIfInBounds]
  by_cases same : other = place
  · subst same
    by_cases inside : other < hints.size
    · rw [if_pos ⟨rfl, inside⟩, if_pos rfl]
    · rw [if_neg fun both => inside both.2, if_pos rfl, hintAt, Array.getD_eq_getD_getElem?,
        Array.getElem?_eq_none (Nat.le_of_not_lt inside)]
      rfl
  · rw [if_neg fun both => same both.1.symm, if_neg same]

/-- Inputs are pinned in turn, some of them perhaps more than once. -/
theorem hintAt_pinned (draft : Draft β) (place : Nat) :
    hintAt draft.pinned.hints place =
      if place ∈ draft.inputs.map Prod.snd then (hintAt draft.hints place).pinned
      else hintAt draft.hints place := by
  obtain ⟨hints, inputs, body⟩ := draft
  induction inputs generalizing hints with
  | nil => rfl
  | cons input rest inductionHypothesis =>
    have others := inductionHypothesis (hints.setIfInBounds input.2 (hintAt hints input.2).pinned)
    simp only [pinned, List.foldl_cons] at others ⊢
    rw [others, hintAt_pinAt]
    by_cases first : place = input.2 <;> by_cases later : place ∈ rest.map Prod.snd <;>
      simp [first, later]

theorem size_pinned (draft : Draft β) : draft.pinned.hints.size = draft.hints.size := by
  obtain ⟨hints, inputs, body⟩ := draft
  induction inputs generalizing hints with
  | nil => rfl
  | cons input rest inductionHypothesis =>
    have others := inductionHypothesis (hints.setIfInBounds input.2 (hintAt hints input.2).pinned)
    rwa [Array.size_setIfInBounds] at others

theorem eq_of_hintAt {hints others : Array Hint}
    (size : hints.size = others.size)
    (same : ∀ place, hintAt hints place = hintAt others place) :
    hints = others := by
  refine Array.ext size fun place inside insideToo => ?_
  have equal := same place
  rwa [hintAt, hintAt, Array.getD_eq_getD_getElem?, Array.getD_eq_getD_getElem?,
    Array.getElem?_eq_getElem inside, Array.getElem?_eq_getElem insideToo] at equal

theorem pinned_pinned (draft : Draft β) : draft.pinned.pinned = draft.pinned := by
  have hints : draft.pinned.pinned.hints = draft.pinned.hints := by
    refine eq_of_hintAt (size_pinned draft.pinned) fun place => ?_
    rw [hintAt_pinned, hintAt_pinned, show draft.pinned.inputs = draft.inputs from rfl]
    split
    · exact Hint.pinned_pinned _
    · rfl
  exact congrArg (fun hints => { draft with hints := hints }) hints

/-- The pinned size of an input is in what is known of it in the end. -/
theorem head?_of_keptBy {draft : Draft β} {place : Nat} {fact : TensorFact} {dims : List Dim}
    {leading : Dim}
    (isInput : place ∈ draft.inputs.map Prod.snd)
    (kept : (hintAt draft.pinned.hints place).KeptBy (.ofFact fact))
    (said : (hintAt draft.hints place).dims = some dims)
    (isLeading : dims.head? = some leading) :
    fact.dims.head? = some (.fixed leading.batch) := by
  have pinnedSizes : (hintAt draft.pinned.hints place).dims = some (pinLeading dims) := by
    rw [hintAt_pinned, if_pos isInput, Hint.pinned, said]
    rfl
  obtain ⟨others, known, keepsSizes⟩ := kept.dims _ pinnedSizes
  rw [Option.some.inj known]
  exact keepsSizes.head?_eq ((isPinned_pinLeading dims).head?_eq isLeading)

theorem exists_typed_of_prepare {typed? : Except Failure TypedModel} {model : Model}
    (prepared : (Model.prepare typed?).value = .ok model) :
    ∃ typed, typed? = .ok typed ∧ model = .ofTyped typed := by
  cases typed? with
  | error failure => cases prepared
  | ok typed => exact ⟨typed, rfl, (Except.ok.inj prepared).symm⟩

theorem pinsBatch {type : Draft β → Except Failure TypedModel} (keeps : KeepsInputs type)
    (draft : Draft β) : draft.PinsBatch type where
  frame := rfl
  count := size_pinned draft
  inputs := by
    intro place member
    rw [hintAt_pinned, if_pos member]
    exact Hint.isPinned_pinned _
  others := by
    intro place missing
    rw [hintAt_pinned, if_neg missing]
  again := pinned_pinned draft
  told := by
    intro model prepared
    obtain ⟨typed, isTyped, rfl⟩ := exists_typed_of_prepare prepared
    rw [Model.ofTyped, List.forall₂_map_right_iff]
    have kept : List.Forall₂ (fun (input : String × Nat) (found : ModelInput) =>
        found.name = input.1 ∧ (hintAt draft.pinned.hints input.2).KeptBy (.ofFact found.fact))
        draft.inputs typed.inputs := keeps _ _ isTyped
    have listed := (List.forall₂_and_left _ _).mpr ⟨fun _ member => member, kept⟩
    refine listed.imp ?_
    rintro input found ⟨member, sameName, keptBy⟩
    refine ⟨by rw [sameName], fun dims said => ?_⟩
    exact TensorFact.beginsWithBatch fun leading isLeading =>
      head?_of_keptBy (List.mem_map_of_mem member) keptBy said isLeading

/-! ## Drafts that are typed here -/

section Typed

variable {hints : Array Hint}

theorem forall₂_of_knownInputs {draft : Draft β} {inputs : List ModelInput}
    (known : draft.knownInputs hints = .ok inputs) :
    List.Forall₂ (fun (input : String × Nat) (found : ModelInput) =>
        found.name = input.1 ∧ hintAt hints input.2 = .ofFact found.fact)
      draft.inputs inputs := by
  rw [knownInputs] at known
  obtain ⟨found, complete, known⟩ := bind_eq_ok_iff.mp known
  have same : found = inputs := by
    dsimp only at known
    split at known
    · cases known
    · exact Except.ok.inj known
  rw [same] at complete
  refine (mapM_eq_some_iff.mp (eq_some_of_orUnsound complete)).imp fun input found isFound => ?_
  obtain ⟨fact, isFact, equal⟩ := Option.bind_eq_some_iff.mp isFound
  rw [← Option.some.inj equal]
  exact ⟨rfl, Hint.eq_of_fact? isFact⟩

theorem exists_hints_of_graph {draft : Draft DraftBody} {graph : Graph}
    (made : draft.graph = .ok graph) :
    ∃ hints, draft.deduced = .ok hints ∧ draft.knownInputs hints = .ok graph.inputs := by
  rw [Draft.graph] at made
  obtain ⟨hints, deduced, made⟩ := bind_eq_ok_iff.mp made
  obtain ⟨inputs, known, made⟩ := bind_eq_ok_iff.mp made
  refine ⟨hints, deduced, ?_⟩
  obtain ⟨nodes, -, made⟩ := bind_eq_ok_iff.mp made
  dsimp only at made
  split at made
  · cases made
  · obtain ⟨tensors, -, made⟩ := bind_eq_ok_iff.mp made
    obtain ⟨graphNodes, -, made⟩ := bind_eq_ok_iff.mp made
    obtain ⟨outputs, -, made⟩ := bind_eq_ok_iff.mp made
    rw [← Except.ok.inj made]
    exact known

theorem inputs_of_typed {graph : Graph} {typed : TypedModel} (made : graph.typed = .ok typed) :
    typed.inputs = graph.inputs := by
  rw [Graph.typed] at made
  obtain ⟨facts, -, made⟩ := bind_eq_ok_iff.mp made
  split at made
  · cases made
  · rw [← Except.ok.inj made]

/-- Following the hints of all nodes keeps what is said of the inputs. -/
theorem keepsInputs_typed : KeepsInputs typed := by
  intro draft typed made
  obtain ⟨graph, isGraph, made⟩ := bind_eq_ok_iff.mp made
  obtain ⟨hints, deduced, known⟩ := exists_hints_of_graph isGraph
  rw [inputs_of_typed made]
  refine (forall₂_of_knownInputs known).imp fun input found ⟨sameName, hint⟩ => ⟨sameName, ?_⟩
  rw [← hint]
  exact keepsHints_of_deduced deduced input.2

theorem keepsInputs_typedAsSaid : KeepsInputs typedAsSaid := by
  intro draft typed made
  obtain ⟨inputs, known, made⟩ := bind_eq_ok_iff.mp made
  rw [inputs_of_typed made]
  refine (forall₂_of_knownInputs known).imp fun input found ⟨sameName, hint⟩ => ⟨sameName, ?_⟩
  rw [← hint]
  exact .refl _

end Typed

end Draft

/-- Pinning gives each input of a draft the size of its batch in front: the number that stood there, and
one if it was none. Scalars, all other sizes, the kinds, the names and the order of inputs and all that
is no input stay, and pinning again changes nothing. Whatever the draft's body is and whatever types it,
if what is said of the inputs is kept, the model that is prepared tells of each input a shape that begins
with the size of its batch. -/
theorem pinned_fixes_batch
    {type : Draft β → Except Failure TypedModel}
    (keeps : Draft.KeepsInputs type)
    (draft : Draft β) :
    draft.PinsBatch type :=
  Draft.pinsBatch keeps draft

/-- A draft with one symbol for several sizes, a scalar, and a batch that is fixed, of which a part is
scaled. -/
def sharedSymbol : Draft DraftBody where
  hints := #[⟨some (.numbers .f32), some [.symbol "N", .symbol "N", .fixed 3]⟩,
    ⟨some (.numbers .f32), some []⟩,
    ⟨some (.numbers .f32), some [.fixed 4, .symbol "N"]⟩,
    .nothing, .nothing]
  inputs := [("pixels", 0), ("scale", 1), ("boxes", 2)]
  body := {
    constants := []
    nodes := [⟨"kept", some .relu, [0], [3]⟩, ⟨"scaled", some .add, [2, 1], [4]⟩]
    outputs := [⟨"kept", 3⟩, ⟨"scaled", 4⟩] }

/-- An input as it is, of which no size is known but the last. -/
def openPixels : Graph :=
  .passThrough [⟨"pixels", ⟨.numbers .f32, [.symbol "N", .symbol "M", .fixed 3]⟩⟩] [(0, none)]

/-- Only the symbol in front of the first input is pinned, and the others are left out. -/
theorem sharedSymbol_pinned :
    sharedSymbol.pinned.hints =
      #[⟨some (.numbers .f32), some [.fixed 1, .symbol "N", .fixed 3]⟩,
        ⟨some (.numbers .f32), some []⟩,
        ⟨some (.numbers .f32), some [.fixed 4, .symbol "N"]⟩,
        .nothing, .nothing] ∧
      Draft.KeepsInputs Draft.typed ∧
      sharedSymbol.PinsBatch Draft.typed ∧
      (∃ model,
        (Model.ofDraft Draft.typed sharedSymbol).value = .ok model ∧
        model.inputs = [("pixels", [1, 3]), ("scale", []), ("boxes", [4])]) ∧
      openPixels.draft.PinsBatch Draft.typedAsSaid ∧
      ∃ model,
        (Model.ofOpenGraph openPixels).value = .ok model ∧ model.inputs = [("pixels", [1, 3])] :=
  ⟨by decide, Draft.keepsInputs_typed, pinned_fixes_batch Draft.keepsInputs_typed sharedSymbol,
    ⟨_, by rfl, by rfl⟩, pinned_fixes_batch Draft.keepsInputs_typedAsSaid openPixels.draft,
    ⟨_, by rfl, by rfl⟩⟩

end Holdout
