import Mathlib.Data.List.TakeWhile
import Holdout.FilePath

/-!
# Paths of components

A path that joins components by slashes falls apart into the same components again: its
file name is the last one, and its parent joins those before, behind whatever the path begins with.
The stem of a file name is cut at the last dot that is not its first character.
-/

namespace Holdout
namespace FilePath

/-- A part that counts wherever it stands in a path. -/
structure IsComponent (part : List UInt8) : Prop where
  slashFree : slash ∉ part
  notIdle : isIdle part = false

theorem IsComponent.ne_nil {part : List UInt8} (component : IsComponent part) : part ≠ [] := by
  intro empty
  have notIdle := component.notIdle
  rw [empty] at notIdle
  exact absurd notIdle (by decide)

theorem IsComponent.ne_dot {part : List UInt8} (component : IsComponent part) :
    part ≠ [dot] := by
  intro same
  have notIdle := component.notIdle
  rw [same] at notIdle
  exact absurd notIdle (by decide)

/-- Without slashes there is one part. -/
theorem parts_of_slashFree {part : List UInt8} (slashFree : slash ∉ part) :
    parts part = [part] := by
  induction part with
  | nil => rfl
  | cons byte rest inductionHypothesis =>
    rw [List.mem_cons, not_or] at slashFree
    rw [parts, if_neg (Ne.symm slashFree.1), inductionHypothesis slashFree.2]

/-- The first slash ends the first part. -/
theorem parts_append_slash {part : List UInt8} (slashFree : slash ∉ part) (rest : List UInt8) :
    parts (part ++ slash :: rest) = part :: parts rest := by
  induction part with
  | nil => rw [List.nil_append, parts, if_pos rfl]
  | cons byte others inductionHypothesis =>
    rw [List.mem_cons, not_or] at slashFree
    rw [List.cons_append, parts, if_neg (Ne.symm slashFree.1),
      inductionHypothesis slashFree.2]

/-- Joined parts fall apart again. -/
theorem parts_join
    {list : List (List UInt8)}
    (nonempty : list ≠ [])
    (slashFree : ∀ part ∈ list, slash ∉ part) :
    parts (join list) = list := by
  induction list with
  | nil => exact absurd rfl nonempty
  | cons part rest inductionHypothesis =>
    have first : slash ∉ part := slashFree part List.mem_cons_self
    cases rest with
    | nil => rw [join, parts_of_slashFree first]
    | cons next others =>
      have others := inductionHypothesis (List.cons_ne_nil _ _)
        (fun other member => slashFree other (List.mem_cons_of_mem _ member))
      rw [join, parts_append_slash first, others]
      intro empty
      cases empty

theorem join_cons (part : List UInt8) (rest : List (List UInt8)) :
    ∃ tail, join (part :: rest) = part ++ tail := by
  cases rest with
  | nil => exact ⟨[], (List.append_nil part).symm⟩
  | cons next others => exact ⟨slash :: join (next :: others), rfl⟩

/-- Nothing stands before a component at the front of a path. -/
theorem splitFront_of_component
    {part : List UInt8}
    (component : IsComponent part)
    (tail : List UInt8) :
    splitFront (part ++ tail) = ([], part ++ tail) := by
  obtain ⟨first, others, same⟩ := List.exists_cons_of_ne_nil component.ne_nil
  have slashFree := component.slashFree
  have notDot := component.ne_dot
  subst same
  unfold splitFront
  split
  case h_1 rest begins =>
    rw [List.cons_append, List.cons.injEq] at begins
    exact absurd (List.mem_cons.mpr (Or.inl begins.1.symm)) slashFree
  case h_2 whole =>
    rw [List.cons_append, List.cons.injEq, List.append_eq_nil_iff] at whole
    rw [whole.1, whole.2.1] at notDot
    exact absurd rfl notDot
  case h_3 rest begins =>
    rw [List.cons_append, List.cons.injEq] at begins
    cases others with
    | nil =>
      rw [begins.1] at notDot
      exact absurd rfl notDot
    | cons second more =>
      rw [List.cons_append, List.cons.injEq] at begins
      have among : slash ∈ first :: second :: more := by
        rw [begins.2.1]
        exact List.mem_cons_of_mem _ List.mem_cons_self
      exact absurd among slashFree
  case h_4 => rfl

/-- A path of components has nothing before them. -/
theorem splitFront_join
    {list : List (List UInt8)}
    (components : ∀ part ∈ list, IsComponent part) :
    splitFront (join list) = ([], join list) := by
  cases list with
  | nil => rfl
  | cons part rest =>
    obtain ⟨tail, same⟩ := join_cons part rest
    rw [same]
    exact splitFront_of_component (components part List.mem_cons_self) tail

/-- From its end, a path of components has them in reverse. -/
theorem lastFirst_join
    {before : List (List UInt8)}
    {last : List UInt8}
    (components : ∀ part ∈ before ++ [last], IsComponent part) :
    lastFirst (join (before ++ [last])) = last :: before.reverse := by
  have slashFree : ∀ part ∈ before ++ [last], slash ∉ part :=
    fun part member => (components part member).slashFree
  have lastCounts : isIdle last = false :=
    (components last (List.mem_append_right _ (List.mem_singleton.mpr rfl))).notIdle
  rw [lastFirst, parts_join (by simp) slashFree, List.reverse_append, List.reverse_singleton,
    List.singleton_append, List.dropWhile_cons, lastCounts]
  rfl

/-- Components that are not idle are all kept. -/
theorem dropWhile_isIdle_reverse
    {before : List (List UInt8)}
    (components : ∀ part ∈ before, IsComponent part) :
    before.reverse.dropWhile isIdle = before.reverse := by
  cases same : before.reverse with
  | nil => rfl
  | cons nearest others =>
    have member : nearest ∈ before := by
      rw [← List.mem_reverse, same]
      exact List.mem_cons_self
    rw [List.dropWhile_cons, (components nearest member).notIdle]
    rfl

/-- The file name of a path is the last of the components that stand behind its front. -/
theorem fileName?_of_splitFront
    {path front last : List UInt8}
    {before : List (List UInt8)}
    (split : splitFront path = (front, join (before ++ [last])))
    (components : ∀ part ∈ before ++ [last], IsComponent part)
    (notDouble : last ≠ [dot, dot]) :
    fileName? path = some last := by
  rw [fileName?, split]
  simp only [lastFirst_join components, if_neg notDouble]

/-- The parent of a path keeps its front and joins all components but the last one. -/
theorem parent?_of_splitFront
    {path front last : List UInt8}
    {before : List (List UInt8)}
    (split : splitFront path = (front, join (before ++ [last])))
    (components : ∀ part ∈ before ++ [last], IsComponent part) :
    parent? path = some (front ++ join before) := by
  have kept : before.reverse.dropWhile isIdle = before.reverse :=
    dropWhile_isIdle_reverse fun part member => components part (List.mem_append_left _ member)
  rw [parent?, split]
  simp only [lastFirst_join components, kept, List.reverse_reverse]

/-- The stem of a file name: the whole name if no dot stands behind its first character, and otherwise
what stands before the last dot. -/
inductive IsStemOf : List UInt8 → List UInt8 → Prop
  | whole {name : List UInt8} : dot ∉ name.tail → IsStemOf name name
  | cut {stem ending : List UInt8} :
      stem ≠ [] → dot ∉ ending → IsStemOf (stem ++ dot :: ending) stem

/-- Every file name has a stem. -/
theorem exists_isStemOf (name : List UInt8) : ∃ stem, IsStemOf name stem := by
  cases name with
  | nil => exact ⟨[], .whole (by simp)⟩
  | cons first rest =>
    by_cases dotted : dot ∈ rest
    · obtain ⟨ending, before, split, dotFree⟩ :=
        List.eq_append_cons_of_mem (List.mem_reverse.mpr dotted)
      refine ⟨first :: before.reverse, ?_⟩
      have whole : first :: rest = (first :: before.reverse) ++ dot :: ending.reverse := by
        rw [List.reverse_eq_iff] at split
        rw [split]
        simp
      rw [whole]
      exact .cut (List.cons_ne_nil _ _) (mt List.mem_reverse.mp dotFree)
    · exact ⟨first :: rest, .whole dotted⟩

/-- From its end, a name reaches back to its last dot. -/
theorem dropWhile_reverse_append_dot {ending : List UInt8} (dotFree : dot ∉ ending)
    (before : List UInt8) :
    (before ++ dot :: ending).reverse.dropWhile (· ≠ dot) = dot :: before.reverse := by
  have passed : ∀ byte ∈ ending.reverse, decide (byte ≠ dot) = true := by
    intro byte member
    rw [decide_eq_true_iff]
    intro same
    exact dotFree (same ▸ List.mem_reverse.mp member)
  rw [List.reverse_append, List.reverse_cons, List.append_assoc, List.singleton_append,
    List.dropWhile_append_of_pos passed, List.dropWhile_cons_of_neg (by simp)]

theorem dropWhile_reverse_of_dotFree {name : List UInt8} (dotFree : dot ∉ name) :
    name.reverse.dropWhile (· ≠ dot) = [] := by
  rw [List.dropWhile_eq_nil_iff]
  intro byte member
  rw [decide_eq_true_iff]
  intro same
  exact dotFree (same ▸ List.mem_reverse.mp member)

theorem fileStem?_of_fileName?
    {path name stem : List UInt8}
    (isName : fileName? path = some name)
    (isStem : IsStemOf name stem) :
    fileStem? path = some stem := by
  rw [fileStem?, isName, Option.map_some, Option.some.injEq]
  cases isStem with
  | @cut stem ending nonempty dotFree =>
    obtain ⟨last, before, split⟩ := List.exists_cons_of_ne_nil (mt List.reverse_eq_nil_iff.mp nonempty)
    rw [dropWhile_reverse_append_dot dotFree, split]
    rw [← List.reverse_reverse stem, split]
  | whole dotFree =>
    cases name with
    | nil => rfl
    | cons first rest =>
      by_cases isDot : first = dot
      · have reached := dropWhile_reverse_append_dot dotFree []
        rw [isDot]
        rw [List.nil_append, List.tail_cons] at reached
        rw [reached]
        rfl
      · rw [dropWhile_reverse_of_dotFree]
        rw [List.mem_cons, not_or]
        exact ⟨Ne.symm isDot, dotFree⟩

/-- The stem of a path is the stem of its file name. -/
theorem fileStem?_eq_some_iff {path stem : List UInt8} :
    fileStem? path = some stem ↔ ∃ name, fileName? path = some name ∧ IsStemOf name stem := by
  constructor
  · intro found
    cases isName : fileName? path with
    | none =>
      rw [fileStem?, isName] at found
      cases found
    | some name =>
      obtain ⟨other, isStem⟩ := exists_isStemOf name
      rw [fileStem?_of_fileName? isName isStem] at found
      exact ⟨name, rfl, Option.some.inj found ▸ isStem⟩
  · rintro ⟨name, isName, isStem⟩
    exact fileStem?_of_fileName? isName isStem

end FilePath
end Holdout
