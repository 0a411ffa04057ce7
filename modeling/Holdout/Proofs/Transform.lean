import Holdout.Dataset
import Holdout.Proofs.NameMap

/-!
# Bindings that a set admits

A validation set calls a preprocessor for a record only if the two go together, and a set of images
only for a single input. Whatever it makes of the record then has been checked against the names of
the model's inputs: the binding has each of them, once, and no others. So a record is bound just if
the contract is met, and apart from failures of the preprocessor, all that is rejected is a mismatch.
-/

namespace Holdout

/-- Names are sorted without losing or gaining any. -/
theorem sortedNames_perm (names : List String) : (sortedNames names).Perm names :=
  List.mergeSort_perm names _

theorem pairwise_sortedNames (names : List String) : (sortedNames names).Pairwise (· ≤ ·) := by
  have transitive (first second third : String) (below : decide (first ≤ second) = true)
      (above : decide (second ≤ third) = true) : decide (first ≤ third) = true := by
    simp only [decide_eq_true_eq] at below above ⊢
    exact String.le_trans below above
  have total (first second : String) :
      (decide (first ≤ second) || decide (second ≤ first)) = true := by
    simp only [Bool.or_eq_true, decide_eq_true_eq]
    exact String.le_total first second
  have sorted := List.pairwise_mergeSort transitive total names
  exact sorted.imp fun {_ _} below => of_decide_eq_true below

/-- Names that are in order stay as they are. -/
theorem sortedNames_of_pairwise {names : List String} (sorted : names.Pairwise (· ≤ ·)) :
    sortedNames names = names :=
  List.mergeSort_of_pairwise (sorted.imp fun {_ _} below => decide_eq_true below)

/-- Sorted names are in order already. -/
theorem sortedNames_sortedNames (names : List String) :
    sortedNames (sortedNames names) = sortedNames names :=
  sortedNames_of_pairwise (pairwise_sortedNames names)

/-- The names of a map are in order already, so sorted names are those of the map if they are the
same names. -/
theorem sortedNames_eq_names_iff {expected : List String} {map : NameMap α} :
    sortedNames expected = map.names ↔ expected.Perm map.names := by
  constructor
  · intro same
    rw [← same]
    exact (sortedNames_perm expected).symm
  · intro same
    have increasing : map.names.Pairwise (· ≤ ·) :=
      List.pairwise_map.mpr (map.increasing.imp fun {_ _} less => Std.le_of_lt less)
    apply ((sortedNames_perm expected).trans same).eq_of_pairwise _
      (pairwise_sortedNames expected) increasing
    intro first second _ _ below above
    exact String.le_antisymm below above

/-- A binding passes the check if it has the expected names, in any order, and no others. -/
theorem checkNames_of_perm
    {expected : List String}
    {binding : InputBinding}
    (same : expected.Perm binding.names) :
    checkNames expected binding = .ok () := by
  rw [checkNames, if_pos (sortedNames_eq_names_iff.mpr same)]

/-- A binding of other names does not pass it. -/
theorem checkNames_of_not_perm
    {expected : List String}
    {binding : InputBinding}
    (differ : ¬expected.Perm binding.names) :
    checkNames expected binding =
      .error (.contractMismatch (.names (sortedNames expected) binding.names)) := by
  rw [checkNames, if_neg (mt sortedNames_eq_names_iff.mp differ)]

theorem checkNames_eq_ok_iff {expected : List String} {binding : InputBinding} :
    checkNames expected binding = .ok () ↔ expected.Perm binding.names := by
  by_cases same : expected.Perm binding.names
  · simp [checkNames_of_perm same, same]
  · simp [checkNames_of_not_perm same, same]

namespace SetKind

section Acting

variable [Monad m] {inputs : List String}

/-- The sets of questions transform records alike, but for their names. -/
theorem transformWith_of_ne_imageNet
    {kind : SetKind}
    (questions : kind ≠ .imageNet)
    (inputs : List String)
    (record : Record)
    (preprocessor : Preprocessor.Acting m) :
    kind.transformWith inputs record preprocessor =
      kind.transformQuestion inputs record preprocessor := by
  cases kind with
  | imageNet => exact absurd rfl questions
  | squad => rfl
  | squadHub => rfl

/-- An image is not bound for a model that does not have exactly one input. -/
theorem transformImage_of_length_ne_one
    (kind : SetKind)
    (several : inputs.length ≠ 1)
    (record : Record)
    (preprocessor : Preprocessor.Acting m) :
    kind.transformImage inputs record preprocessor =
      pure (.error (.contractMismatch (.notSingle kind.name inputs))) := by
  match inputs with
  | [] => rfl
  | [_] => exact absurd rfl several
  | _ :: _ :: _ => rfl

end Acting

/-- The binding of a question is made of what the preprocessor makes of it. -/
theorem transform_question
    {kind : SetKind}
    (questions : kind ≠ .imageNet)
    (inputs : List String)
    (question : QuestionRecord)
    (run : String → String → Nat → Except Failure InputBinding) :
    kind.transform inputs (.question question) (.text run) =
      bindQuestion inputs (run question.question question.context maxSequenceLength) := by
  rw [transform, transformWith_of_ne_imageNet questions]
  rfl

/-- What a preprocessor has produced for a question is the binding if it has the expected names. -/
theorem bindQuestion_ok (inputs : List String) (produced : InputBinding) :
    bindQuestion inputs (.ok produced) = (checkNames inputs produced).map fun _ => produced :=
  rfl

/-- The tensor that a preprocessor has produced for an image is bound to the only input if it has
the shape of an image. -/
theorem bindImage_ok (input : String) (tensor : Tensor) :
    bindImage input (.ok tensor) =
      (checkShape input tensor imageInputShape).map fun _ => NameMap.empty.insert input tensor :=
  rfl

theorem transform_of_length_ne_one
    {inputs : List String}
    (several : inputs.length ≠ 1)
    (record : Record)
    (preprocessor : Preprocessor) :
    imageNet.transform inputs record preprocessor =
      .error (.contractMismatch (.notSingle imageNet.name inputs)) :=
  imageNet.transformImage_of_length_ne_one several record (preprocessor.acting Id)

end SetKind

/-! ## The contract -/

/-- The preprocessor is for such records, and fails for what this one holds. -/
inductive Preprocessor.FailsOn : Preprocessor → Record → Failure → Prop
  | image {run : ByteArray → Except Failure Tensor} {image : ImageRecord} {cause : Failure}
      (failed : run image.jpeg = .error cause) :
      FailsOn (.image run) (.image image) cause
  | text {run : String → String → Nat → Except Failure InputBinding}
      {question : QuestionRecord} {cause : Failure}
      (failed : run question.question question.context 384 = .error cause) :
      FailsOn (.text run) (.question question) cause

/-- What a preprocessor is asked about a record. -/
def Record.call : Record → Preprocessor.Call
  | .image record => .image record.jpeg
  | .question record => .text record.question record.context 384

namespace SetKind

/-- All that is checked before the preprocessor is called holds. The set of images has one input to
feed, and either set has a record and a preprocessor of its own kind. -/
inductive Calls : SetKind → List String → Record → Preprocessor → Prop
  | image (input : String) (image : ImageRecord) (run : ByteArray → Except Failure Tensor) :
      Calls .imageNet [input] (.image image) (.image run)
  | question {kind : SetKind} (questions : kind ≠ .imageNet) (inputs : List String)
      (question : QuestionRecord) (run : String → String → Nat → Except Failure InputBinding) :
      Calls kind inputs (.question question) (.text run)

/-- The contract is met by a binding. For an image this is the only input with the preprocessor's
tensor, which has the accepted shape. For a question it is what the preprocessor has produced, which
has the names of the inputs, in whatever order these are, and they are all different. -/
inductive Binds : SetKind → List String → Record → Preprocessor → InputBinding → Prop
  | image {input : String} {image : ImageRecord} {run : ByteArray → Except Failure Tensor}
      {tensor : Tensor}
      (ran : run image.jpeg = .ok tensor)
      (shape : tensor.shape = [1, 3, 224, 224]) :
      Binds .imageNet [input] (.image image) (.image run) (NameMap.empty.insert input tensor)
  | question {kind : SetKind} {inputs : List String} {question : QuestionRecord}
      {run : String → String → Nat → Except Failure InputBinding} {binding : InputBinding}
      (questions : kind ≠ .imageNet)
      (ran : run question.question question.context 384 = .ok binding)
      (distinct : inputs.Nodup)
      (same : ∀ name, name ∈ inputs ↔ name ∈ binding.names) :
      Binds kind inputs (.question question) (.text run) binding

section Contract

variable {kind : SetKind} {inputs : List String} {record : Record} {preprocessor : Preprocessor}
  {binding : InputBinding} {cause : Failure}

/-- A binding that meets the contract is what the record becomes. -/
theorem transform_of_binds (meets : kind.Binds inputs record preprocessor binding) :
    kind.transform inputs record preprocessor = .ok binding := by
  cases meets with
  | image ran shape =>
    refine (congrArg (bindImage _) ran).trans ?_
    rw [bindImage_ok, checkShape, imageInputShape, if_pos shape]
    rfl
  | question questions ran distinct same =>
    rw [transform_question questions, maxSequenceLength, ran, bindQuestion_ok,
      checkNames_of_perm (NameMap.perm_names_iff.mpr ⟨distinct, same⟩)]
    rfl

/-- A preprocessor that is called and fails is to blame. -/
theorem transform_of_failsOn
    (calls : kind.Calls inputs record preprocessor)
    (fails : preprocessor.FailsOn record cause) :
    kind.transform inputs record preprocessor = .error (.preprocess cause) := by
  cases calls with
  | image input image run =>
    obtain ⟨failed⟩ := fails
    exact congrArg (bindImage input) failed
  | question questions inputs question run =>
    obtain _ | ⟨failed⟩ := fails
    rw [transform_question questions, maxSequenceLength, failed]
    rfl

/-- What a preprocessor has produced is rejected only as a mismatch. -/
theorem transform_cases_of_calls (calls : kind.Calls inputs record preprocessor) :
    (∃ binding, kind.Binds inputs record preprocessor binding) ∨
      (∃ cause, preprocessor.FailsOn record cause) ∨
      ∃ mismatch,
        kind.transform inputs record preprocessor = .error (.contractMismatch mismatch) := by
  cases calls with
  | image input image run =>
    cases ran : run image.jpeg with
    | error cause => exact .inr (.inl ⟨cause, .image ran⟩)
    | ok tensor =>
      by_cases shape : tensor.shape = imageInputShape
      · exact .inl ⟨_, .image ran shape⟩
      · refine .inr (.inr ⟨.shape input tensor.shape imageInputShape, ?_⟩)
        refine (congrArg (bindImage input) ran).trans ?_
        rw [bindImage_ok, checkShape, if_neg shape]
        rfl
  | question questions inputs question run =>
    cases ran : run question.question question.context maxSequenceLength with
    | error cause => exact .inr (.inl ⟨cause, .text ran⟩)
    | ok produced =>
      by_cases same : inputs.Perm produced.names
      · obtain ⟨distinct, same⟩ := NameMap.perm_names_iff.mp same
        exact .inl ⟨produced, .question questions ran distinct same⟩
      · refine .inr (.inr ⟨.names (sortedNames inputs) produced.names, ?_⟩)
        rw [transform_question questions, ran, bindQuestion_ok, checkNames_of_not_perm same]
        rfl

/-- A preprocessor that is called is asked about the record, and about nothing else. -/
theorem transformWith_recording_of_calls
    (calls : kind.Calls inputs record preprocessor)
    (asked : List Preprocessor.Call) :
    (kind.transformWith inputs record preprocessor.recording).run asked =
      (kind.transform inputs record preprocessor, record.call :: asked) := by
  cases calls with
  | image input image run => rfl
  | question questions inputs question run =>
    rw [transformWith_of_ne_imageNet questions, transform_question questions]
    rfl

/-- Without a call there is a mismatch and nothing else is done, whatever a preprocessor of this kind
would do. -/
theorem transformWith_of_not_calls (refused : ¬kind.Calls inputs record preprocessor) :
    ∃ mismatch, ∀ (m : Type → Type) [Monad m] (other : Preprocessor.Acting m),
      other.kind = preprocessor.kind →
        kind.transformWith inputs record other = pure (.error (.contractMismatch mismatch)) := by
  by_cases images : kind = .imageNet
  · subst images
    by_cases single : inputs.length = 1
    · obtain ⟨input, rfl⟩ := List.length_eq_one_iff.mp single
      cases record with
      | question question => exact ⟨_, fun _ _ _ _ => rfl⟩
      | image image =>
        cases preprocessor with
        | image run => exact absurd (.image input image run) refused
        | text run =>
          refine ⟨.needsImage imageNet.name "text", fun m _ other same => ?_⟩
          cases other with
          | image run => exact absurd same (of_decide_eq_false rfl)
          | text run => rfl
    · exact ⟨_, fun _ _ other _ =>
        imageNet.transformImage_of_length_ne_one single record other⟩
  · cases record with
    | image image => exact ⟨_, fun _ _ _ _ => transformWith_of_ne_imageNet images ..⟩
    | question question =>
      cases preprocessor with
      | text run => exact absurd (.question images inputs question run) refused
      | image run =>
        refine ⟨.needsText kind.name "image", fun m _ other same => ?_⟩
        cases other with
        | text run => exact absurd same (of_decide_eq_false rfl)
        | image run => exact transformWith_of_ne_imageNet images ..

theorem kind_acting [Monad m] (preprocessor : Preprocessor) :
    (preprocessor.acting m).kind = preprocessor.kind := by
  cases preprocessor <;> rfl

theorem kind_recording (preprocessor : Preprocessor) :
    preprocessor.recording.kind = preprocessor.kind := by
  cases preprocessor <;> rfl

theorem transform_of_not_calls (refused : ¬kind.Calls inputs record preprocessor) :
    ∃ mismatch,
      kind.transform inputs record preprocessor = .error (.contractMismatch mismatch) := by
  obtain ⟨mismatch, rejects⟩ := transformWith_of_not_calls refused
  exact ⟨mismatch, rejects Id _ (kind_acting preprocessor)⟩

/-- A preprocessor that is not called is asked nothing. -/
theorem transformWith_recording_of_not_calls
    (refused : ¬kind.Calls inputs record preprocessor)
    (asked : List Preprocessor.Call) :
    (kind.transformWith inputs record preprocessor.recording).run asked =
      (kind.transform inputs record preprocessor, asked) := by
  obtain ⟨mismatch, rejects⟩ := transformWith_of_not_calls refused
  rw [transform, rejects _ _ (kind_recording preprocessor), rejects _ _ (kind_acting preprocessor)]
  rfl

theorem transform_cases
    (kind : SetKind)
    (inputs : List String)
    (record : Record)
    (preprocessor : Preprocessor) :
    (∃ binding, kind.Binds inputs record preprocessor binding) ∨
      (kind.Calls inputs record preprocessor ∧ ∃ cause, preprocessor.FailsOn record cause) ∨
      ∃ mismatch,
        kind.transform inputs record preprocessor = .error (.contractMismatch mismatch) := by
  by_cases calls : kind.Calls inputs record preprocessor
  · rcases transform_cases_of_calls calls with meets | fails | mismatch
    · exact .inl meets
    · exact .inr (.inl ⟨calls, fails⟩)
    · exact .inr (.inr mismatch)
  · exact .inr (.inr (transform_of_not_calls calls))

/-- A record becomes a binding just if the binding meets the contract. -/
theorem transform_eq_ok_iff :
    kind.transform inputs record preprocessor = .ok binding ↔
      kind.Binds inputs record preprocessor binding := by
  constructor
  · intro bound
    rcases transform_cases kind inputs record preprocessor with
      ⟨other, meets⟩ | ⟨calls, cause, fails⟩ | ⟨mismatch, rejects⟩
    · rw [transform_of_binds meets] at bound
      exact Except.ok.inj bound ▸ meets
    · rw [transform_of_failsOn calls fails] at bound
      cases bound
    · rw [rejects] at bound
      cases bound
  · exact transform_of_binds

/-- The preprocessor is to blame just if it is called and fails. -/
theorem transform_eq_preprocess_iff :
    kind.transform inputs record preprocessor = .error (.preprocess cause) ↔
      kind.Calls inputs record preprocessor ∧ preprocessor.FailsOn record cause := by
  constructor
  · intro failed
    rcases transform_cases kind inputs record preprocessor with
      ⟨other, meets⟩ | ⟨calls, other, fails⟩ | ⟨mismatch, rejects⟩
    · rw [transform_of_binds meets] at failed
      cases failed
    · rw [transform_of_failsOn calls fails] at failed
      cases failed
      exact ⟨calls, fails⟩
    · rw [rejects] at failed
      cases failed
  · rintro ⟨calls, fails⟩
    exact transform_of_failsOn calls fails

/-- A record becomes a binding of exactly the names of the inputs. -/
theorem perm_of_transform (bound : kind.transform inputs record preprocessor = .ok binding) :
    inputs.Perm binding.names := by
  cases transform_eq_ok_iff.mp bound with
  | image ran shape => rw [NameMap.names_insert_empty]
  | question questions ran distinct same => exact NameMap.perm_names_iff.mpr ⟨distinct, same⟩

end Contract

/-- A set binds a record just if the contract is met. It blames the preprocessor just if it has called
it and it has failed, and everything else is a mismatch. The preprocessor is called once, for what the
record holds, if all that is checked before holds. Otherwise it is not called: nothing is done but to
tell a mismatch, which is the same for all preprocessors of this kind, whatever they would do. -/
theorem transform_meets_contract
    (kind : SetKind)
    (inputs : List String)
    (record : Record)
    (preprocessor : Preprocessor) :
    (∀ binding, kind.transform inputs record preprocessor = .ok binding ↔
      kind.Binds inputs record preprocessor binding) ∧
    (∀ cause, kind.transform inputs record preprocessor = .error (.preprocess cause) ↔
      kind.Calls inputs record preprocessor ∧ preprocessor.FailsOn record cause) ∧
    ((∀ binding, ¬kind.Binds inputs record preprocessor binding) →
      (∀ cause, ¬(kind.Calls inputs record preprocessor ∧ preprocessor.FailsOn record cause)) →
      ∃ mismatch,
        kind.transform inputs record preprocessor = .error (.contractMismatch mismatch)) ∧
    (kind.Calls inputs record preprocessor → ∀ asked,
      (kind.transformWith inputs record preprocessor.recording).run asked =
        (kind.transform inputs record preprocessor, record.call :: asked)) ∧
    (¬kind.Calls inputs record preprocessor →
      (∀ asked,
        (kind.transformWith inputs record preprocessor.recording).run asked =
          (kind.transform inputs record preprocessor, asked)) ∧
      ∃ mismatch, ∀ (m : Type → Type) [Monad m] (other : Preprocessor.Acting m),
        other.kind = preprocessor.kind →
          kind.transformWith inputs record other = pure (.error (.contractMismatch mismatch))) := by
  refine ⟨fun _ => transform_eq_ok_iff, fun _ => transform_eq_preprocess_iff, ?_,
    transformWith_recording_of_calls, fun refused =>
      ⟨transformWith_recording_of_not_calls refused, transformWith_of_not_calls refused⟩⟩
  intro unbound unfailed
  rcases transform_cases kind inputs record preprocessor with
    ⟨binding, meets⟩ | ⟨calls, cause, fails⟩ | mismatch
  · exact absurd meets (unbound binding)
  · exact absurd ⟨calls, fails⟩ (unfailed cause)
  · exact mismatch

/-- A preprocessor of questions that makes words and a mask, both empty. -/
def blankWords : Preprocessor := .text fun _ _ length => .ok (NameMap.ofList
  [("mask", .zeros .bool [length]), ("words", .zeros .i64 [length])])

/-- The names that are produced may be expected in another order, but a set of images turns the
question down without asking the preprocessor. -/
theorem transform_of_two_names :
    (squad.transformWith ["words", "mask"] (.question ⟨"Rain.", "Where?"⟩)
        blankWords.recording).run [] =
      (.ok (NameMap.ofList [("mask", .zeros .bool [384]), ("words", .zeros .i64 [384])]),
        [.text "Where?" "Rain." 384]) ∧
    ∃ mismatch,
      (imageNet.transformWith ["words", "mask"] (.question ⟨"Rain.", "Where?"⟩)
        blankWords.recording).run [] = (.error (.contractMismatch mismatch), []) := by
  constructor
  · have meets : squad.Binds ["words", "mask"] (.question ⟨"Rain.", "Where?"⟩) blankWords
        (NameMap.ofList [("mask", .zeros .bool [384]), ("words", .zeros .i64 [384])]) := by
      refine .question (by decide) rfl (by decide) fun name => ?_
      rw [NameMap.mem_names_ofList]
      simp [or_comm]
    have bound := ((transform_meets_contract ..).1 _).mpr meets
    have calls : squad.Calls ["words", "mask"] (.question ⟨"Rain.", "Where?"⟩) blankWords :=
      .question (by decide) ..
    rw [(transform_meets_contract ..).2.2.2.1 calls, bound]
    rfl
  · have refused : ¬imageNet.Calls ["words", "mask"] (.question ⟨"Rain.", "Where?"⟩) blankWords :=
      nofun
    obtain ⟨asksNothing, mismatch, rejects⟩ := (transform_meets_contract ..).2.2.2.2 refused
    refine ⟨mismatch, ?_⟩
    rw [rejects _ _ rfl]
    rfl

end SetKind
end Holdout
