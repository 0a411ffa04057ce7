import Holdout.Model.Draft
import Holdout.Proofs.Model.Outputs

/-!
# Hints are kept

Following the hints of a draft only adds to what is known: the kind of a value stays, and so do the
number of its directions and every size that is known. One merge keeps both hints' first account, and
by induction over the merges, the nodes and the rounds so does the whole of `Draft.deduced`.
-/

namespace Holdout

/-- There are as many sizes as before, and every one that was known is the same. -/
def KeepsSizes (before after : List Dim) : Prop :=
  List.Forall₂ (fun dim other => dim ≠ .unknown → other = dim) before after

namespace KeepsSizes

theorem refl (dims : List Dim) : KeepsSizes dims dims :=
  List.forall₂_same.mpr fun _ _ _ => rfl

theorem trans {first second third : List Dim}
    (kept : KeepsSizes first second)
    (keptFurther : KeepsSizes second third) :
    KeepsSizes first third := by
  induction kept generalizing third with
  | nil => exact keptFurther
  | cons same _ inductionHypothesis =>
    cases keptFurther with
    | cons sameToo rest =>
      refine .cons (fun known => ?_) (inductionHypothesis rest)
      have equal := same known
      rw [sameToo (equal ▸ known), equal]

/-- A leading size that is known is the leading size in the end. -/
theorem head?_eq {before after : List Dim} {size : Int}
    (kept : KeepsSizes before after)
    (leading : before.head? = some (.fixed size)) :
    after.head? = some (.fixed size) := by
  cases kept with
  | nil => cases leading
  | cons same _ =>
    rw [List.head?_cons, Option.some_inj] at leading
    rw [List.head?_cons, same (by rw [leading]; nofun), leading]

end KeepsSizes

namespace Hint

/-- All that a hint says is said by another one as well. -/
structure KeptBy (hint more : Hint) : Prop where
  type : ∀ type, hint.type = some type → more.type = some type
  dims : ∀ dims, hint.dims = some dims → ∃ others, more.dims = some others ∧ KeepsSizes dims others

theorem KeptBy.refl (hint : Hint) : hint.KeptBy hint :=
  ⟨fun _ said => said, fun dims said => ⟨dims, said, .refl dims⟩⟩

theorem KeptBy.trans {first second third : Hint}
    (kept : first.KeptBy second)
    (keptFurther : second.KeptBy third) :
    first.KeptBy third := by
  refine ⟨fun type said => keptFurther.type type (kept.type type said), fun dims said => ?_⟩
  obtain ⟨others, saidToo, keepsSizes⟩ := kept.dims dims said
  obtain ⟨lastOnes, saidLast, keepsFurther⟩ := keptFurther.dims others saidToo
  exact ⟨lastOnes, saidLast, keepsSizes.trans keepsFurther⟩

theorem agree?_keeps [DecidableEq α] {first second both : Option α} {value : α}
    (agreed : agree? first second = some both)
    (said : first = some value) :
    both = some value := by
  subst said
  cases second with
  | none => exact (Option.some.inj agreed).symm
  | some other =>
    rw [agree?] at agreed
    split at agreed
    · exact (Option.some.inj agreed).symm
    · cases agreed

theorem mergeDim?_keeps {first second both : Dim}
    (merged : mergeDim? first second = some both)
    (known : first ≠ .unknown) :
    both = first := by
  rw [mergeDim?.eq_def] at merged
  split at merged
  · exact absurd rfl known
  · exact (Option.some.inj merged).symm
  · split at merged
    · exact (Option.some.inj merged).symm
    · cases merged

theorem mergeDims?_keeps {first second both : List Dim}
    (merged : mergeDims? first second = some both) :
    KeepsSizes first both := by
  induction first, second using mergeDims?.induct generalizing both with
  | case1 =>
    rw [mergeDims?, Option.some_inj] at merged
    rw [← merged]
    exact .refl []
  | case2 dim dims other others inductionHypothesis =>
    simp only [mergeDims?, Option.bind_eq_bind, Option.bind_eq_some_iff] at merged
    obtain ⟨size, mergedSize, sizes, mergedSizes, equal⟩ := merged
    rw [← Option.some.inj equal]
    exact .cons (mergeDim?_keeps mergedSize) (inductionHypothesis mergedSizes)
  | case3 dims others notEmpty notCons =>
    rw [mergeDims?.eq_3 dims others notEmpty notCons] at merged
    cases merged

theorem keptBy_of_merge? {first second both : Hint} (merged : first.merge? second = some both) :
    first.KeptBy both := by
  rw [merge?, Option.bind_eq_bind, Option.bind_eq_some_iff] at merged
  obtain ⟨type, agreed, merged⟩ := merged
  split at merged
  · next nothingSaid =>
    rw [← Option.some.inj merged]
    exact ⟨fun _ => agree?_keeps agreed, fun dims said => absurd (nothingSaid.symm.trans said) nofun⟩
  · rw [← Option.some.inj merged]
    exact ⟨fun _ => agree?_keeps agreed, fun dims said => ⟨dims, said, .refl dims⟩⟩
  · next sizes _ isFirst _ =>
    rw [Option.bind_eq_bind, Option.bind_eq_some_iff] at merged
    obtain ⟨both, mergedSizes, equal⟩ := merged
    rw [← Option.some.inj equal]
    refine ⟨fun _ => agree?_keeps agreed, fun dims said => ⟨both, rfl, ?_⟩⟩
    rw [← Option.some.inj (isFirst.symm.trans said)]
    exact mergeDims?_keeps mergedSizes

/-- The kind and the sizes of a value of which nothing is missing are those in the hint. -/
theorem eq_of_fact? {hint : Hint} {fact : TensorFact} (complete : hint.fact? = some fact) :
    hint = .ofFact fact := by
  simp only [fact?, sizes?, Option.bind_eq_bind, Option.bind_eq_some_iff, Option.filter_eq_some_iff]
    at complete
  obtain ⟨type, isType, dims, ⟨isDims, -⟩, equal⟩ := complete
  rw [← Option.some.inj equal, ofFact, ← isType, ← isDims]

end Hint

namespace Draft

theorem hintAt_setIfInBounds (hints : Array Hint) (place other : Nat) (hint : Hint) :
    hintAt (hints.setIfInBounds place hint) other =
      if place = other ∧ place < hints.size then hint else hintAt hints other := by
  rw [hintAt, hintAt, Array.getD_eq_getD_getElem?, Array.getD_eq_getD_getElem?,
    Array.getElem?_setIfInBounds]
  by_cases same : place = other
  · subst same
    by_cases inside : place < hints.size
    · rw [if_pos rfl, if_pos inside, if_pos ⟨rfl, inside⟩]
      rfl
    · rw [if_pos rfl, if_neg inside, if_neg fun both => inside both.2,
        Array.getElem?_eq_none (Nat.le_of_not_lt inside)]
  · rw [if_neg same, if_neg fun both => same both.1]

/-- What is known of the value at any place is known afterwards. -/
def KeepsHints (hints more : Array Hint) : Prop :=
  ∀ place, (hintAt hints place).KeptBy (hintAt more place)

variable {hints more : Array Hint}

theorem KeepsHints.refl (hints : Array Hint) : KeepsHints hints hints := fun _ => .refl _

theorem KeepsHints.trans {last : Array Hint}
    (kept : KeepsHints hints more)
    (keptFurther : KeepsHints more last) :
    KeepsHints hints last :=
  fun place => (kept place).trans (keptFurther place)

theorem keepsHints_of_mergeAt {entries : List (Nat × Hint)}
    (merged : mergeAt hints entries = .ok more) :
    KeepsHints hints more := by
  refine foldlM_preserves (fun {before entry after} kept step => ?_) (.refl hints) merged
  obtain ⟨both, sound, equal⟩ := bind_eq_ok_iff.mp step
  refine kept.trans fun place => ?_
  rw [← Except.ok.inj equal, hintAt_setIfInBounds]
  split
  · next here =>
    rw [← here.1]
    exact Hint.keptBy_of_merge? (eq_some_of_orUnsound sound)
  · exact .refl _

/-- A node adds to what is known. -/
theorem keepsHints_of_follow {node : DraftNode} (followed : follow hints node = .ok more) :
    KeepsHints hints more := by
  rw [follow.eq_def] at followed
  split at followed
  · rw [← Except.ok.inj followed]
    exact .refl hints
  · obtain ⟨told, -, merged⟩ := bind_eq_ok_iff.mp followed
    exact keepsHints_of_mergeAt merged
  · cases followed

/-- So do any rounds over the nodes. -/
theorem keepsHints_of_followAll {nodes : List DraftNode} {fuel : Nat}
    (followed : followAll nodes fuel hints = .ok more) :
    KeepsHints hints more := by
  induction fuel generalizing hints with
  | zero =>
    rw [← Except.ok.inj followed]
    exact .refl hints
  | succ fuel inductionHypothesis =>
    rw [followAll] at followed
    obtain ⟨next, round, followed⟩ := bind_eq_ok_iff.mp followed
    have kept : KeepsHints hints next :=
      foldlM_preserves (fun kept step => kept.trans (keepsHints_of_follow step)) (.refl hints) round
    split at followed
    · rw [← Except.ok.inj followed]
      exact .refl hints
    · exact kept.trans (inductionHypothesis followed)

/-- All that a draft says of its values is among what follows from it. -/
theorem keepsHints_of_deduced {draft : Draft DraftBody} (deduced : draft.deduced = .ok more) :
    KeepsHints draft.hints more := by
  rw [Draft.deduced] at deduced
  obtain ⟨given, merged, followed⟩ := bind_eq_ok_iff.mp deduced
  exact (keepsHints_of_mergeAt merged).trans (keepsHints_of_followAll followed)

end Draft

end Holdout
