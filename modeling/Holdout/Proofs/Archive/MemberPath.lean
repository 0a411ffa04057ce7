import Holdout.Proofs.Archive.NormalPath

/-!
# Paths of members

The path of a file in an archive is the key of its sample, a dot and the name of the member.
Cutting the path gives the key and the name back: the dots of directories and of the name do
not matter, as long as the last component of the key has none.
-/

namespace Holdout
namespace Archive

/-- Components joined by slashes, of which the last has no dot. -/
def IsKey (key : String) : Prop :=
  ∃ directory stem,
    (∀ name ∈ directory ++ [stem], IsPathName name) ∧
      '.' ∉ stem.toList ∧
      key = String.intercalate "/" (directory ++ [stem])

/-- The path of the member with this name in the sample with this key. -/
def memberPath (key name : String) : List UInt8 := Text.bytes (key ++ "." ++ name)

/-- What is appended to joined texts belongs to the last of them. -/
theorem intercalate_append (directory : List String) (last suffix : String) :
    String.intercalate "/" (directory ++ [last]) ++ suffix =
      String.intercalate "/" (directory ++ [last ++ suffix]) := by
  by_cases none : directory = []
  · rw [none]
    simp only [List.nil_append, String.intercalate_singleton]
  · rw [String.intercalate_append_of_ne_nil none (List.cons_ne_nil _ _),
      String.intercalate_append_of_ne_nil none (List.cons_ne_nil _ _)]
    simp only [String.intercalate_singleton, String.append_assoc]

/-- Joined components are no empty text. -/
theorem intercalate_ne_empty
    {directory : List String}
    (names : ∀ name ∈ directory, IsPathName name)
    (nonempty : directory ≠ []) :
    String.intercalate "/" directory ≠ "" := by
  obtain ⟨first, others, same⟩ := List.exists_cons_of_ne_nil nonempty
  rw [same] at names ⊢
  have firstNamed : first ≠ "" := (names first List.mem_cons_self).notEmpty
  by_cases single : others = []
  · rw [single, String.intercalate_singleton]
    exact firstNamed
  · intro empty
    rw [String.intercalate_cons_of_ne_nil single, String.append_eq_empty_iff,
      String.append_eq_empty_iff] at empty
    exact firstNamed empty.1.1

/-- A key is rebuilt from the directory, as text, and the stem. -/
theorem memberKey_intercalate
    {directory : List String}
    (names : ∀ name ∈ directory, IsPathName name)
    (stem : String) :
    memberKey (some (String.intercalate "/" directory)) stem =
      String.intercalate "/" (directory ++ [stem]) := by
  by_cases none : directory = []
  · rw [none, List.nil_append, String.intercalate_singleton, String.intercalate_nil]
    rfl
  · rw [String.intercalate_append_of_ne_nil none (List.cons_ne_nil _ _),
      String.intercalate_singleton, memberKey]
    simp only [if_neg (intercalate_ne_empty names none)]

/-- A file name is cut at its first dot. -/
theorem cut_at_dot
    {stem : String}
    (dotFree : '.' ∉ stem.toList)
    (name : String) :
    (stem ++ "." ++ name).toList.takeWhile (· ≠ '.') = stem.toList ∧
      (stem ++ "." ++ name).toList.dropWhile (· ≠ '.') = '.' :: name.toList := by
  have dot : ".".toList = ['.'] := rfl
  have before : ∀ c ∈ stem.toList, decide (c ≠ '.') = true := by
    intro c member
    rw [decide_eq_true_eq]
    intro same
    exact dotFree (same ▸ member)
  rw [String.append_assoc, String.toList_append, String.toList_append, dot,
    List.takeWhile_append_of_pos before, List.dropWhile_append_of_pos before]
  constructor
  · rw [List.singleton_append, List.takeWhile_cons]
    exact List.append_nil _
  · rfl

/-- The file name of a member is a component that is not a double dot. -/
theorem isPathName_file
    {stem name : String}
    (isStem : IsPathName stem)
    (dotFree : '.' ∉ stem.toList)
    (slashFree : '/' ∉ name.toList) :
    IsPathName (stem ++ "." ++ name) ∧ stem ++ "." ++ name ≠ ".." := by
  obtain ⟨first, others, same⟩ := List.exists_cons_of_ne_nil
    (fun empty => isStem.notEmpty (String.toList_eq_nil_iff.mp empty))
  have firstNoDot : first ≠ '.' := by
    intro dot
    exact dotFree (by rw [same, dot]; exact List.mem_cons_self)
  have spelled : (stem ++ "." ++ name).toList = first :: (others ++ '.' :: name.toList) := by
    rw [String.append_assoc, String.toList_append, String.toList_append, same]
    rfl
  refine ⟨⟨?_, ?_, ?_⟩, ?_⟩
  · intro empty
    rw [empty] at spelled
    cases spelled
  · intro dot
    rw [dot] at spelled
    exact firstNoDot (List.cons.inj spelled).1.symm
  · have inStem : '/' ∉ first :: others := same ▸ isStem.slashFree
    rw [spelled]
    simp_all
  · intro double
    rw [double] at spelled
    exact firstNoDot (List.cons.inj spelled).1.symm

/-- Cutting the path of a member gives its key and its name back. -/
theorem ofPath?_memberPath
    {key name : String}
    (isKey : IsKey key)
    (slashFree : '/' ∉ name.toList) :
    Member.ofPath? (memberPath key name) = some ⟨key, name⟩ := by
  obtain ⟨directory, stem, names, dotFree, same⟩ := isKey
  have isStem : IsPathName stem :=
    names stem (List.mem_append_right _ (List.mem_singleton.mpr rfl))
  have directoryNames : ∀ name ∈ directory, IsPathName name :=
    fun name member => names name (List.mem_append_left _ member)
  obtain ⟨isFile, notDouble⟩ := isPathName_file isStem dotFree slashFree
  let path : NormalPath :=
    { rooted := false
      directory := directory
      file := stem ++ "." ++ name
      components := List.forall_mem_append.mpr
        ⟨directoryNames, List.forall_mem_singleton.mpr isFile⟩
      notDouble := notDouble }
  have written : memberPath key name = path.bytes := by
    rw [memberPath, same, String.append_assoc, intercalate_append, ← String.append_assoc]
    exact congrArg Text.bytes (String.empty_append).symm
  obtain ⟨taken, dropped⟩ := cut_at_dot dotFree name
  have member : path.member = ⟨key, name⟩ := by
    have parent : path.parent = String.intercalate "/" directory := String.empty_append
    rw [NormalPath.member, parent, upToDot, behindDot, taken, dropped, String.ofList_toList,
      memberKey_intercalate directoryNames, ← same]
    exact congrArg (Member.mk key) String.ofList_toList
  rw [written, path.ofPath?_bytes, member]

end Archive
end Holdout
