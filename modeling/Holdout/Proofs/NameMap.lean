import Mathlib.Data.List.Dedup
import Mathlib.Data.List.Induction
import Holdout.NameMap

/-!
# Maps made of pairs

Of the pairs that a map is made of, the last one with a name counts. So the map has as many entries as
there are different names, and keeps all pairs just if no name stands twice among them.
-/

namespace Holdout
namespace NameMap

theorem mem_names_iff {map : NameMap α} {name : String} :
    name ∈ map.names ↔ (map.find? name).isSome = true := by
  constructor
  · intro member
    obtain ⟨value, found⟩ := exists_find?_of_mem_names member
    rw [found]
    rfl
  · intro found
    rw [find?, findEntry, Option.isSome_map, List.find?_isSome] at found
    obtain ⟨entry, isEntry, same⟩ := found
    exact List.mem_map.mpr ⟨entry, isEntry, of_decide_eq_true same⟩

/-- The names of a map are different, so other names are the same in some order just if they are
different, too, and none is missing or added. -/
theorem perm_names_iff {names : List String} {map : NameMap α} :
    names.Perm map.names ↔ names.Nodup ∧ ∀ name, name ∈ names ↔ name ∈ map.names := by
  constructor
  · intro same
    exact ⟨same.nodup_iff.mpr map.nodup_names, fun _ => same.mem_iff⟩
  · rintro ⟨distinct, same⟩
    exact (List.perm_ext_iff_of_nodup distinct map.nodup_names).mpr same

theorem mem_names_erase {map : NameMap α} {name other : String} :
    other ∈ (map.erase name).names ↔ other ∈ map.names ∧ other ≠ name := by
  rw [names_erase, List.mem_filter, decide_eq_true_iff]

/-- Without an entry, every other name finds what it found before. -/
theorem find?_erase_of_ne
    {name other : String}
    (different : other ≠ name)
    (map : NameMap α) :
    (map.erase name).find? other = map.find? other := by
  rw [find?, findEntry, erase, List.find?_filter, find?, findEntry]
  congr 2
  funext entry
  by_cases isOther : entry.1 = other
  · simp [isOther, different]
  · simp [isOther]

theorem ofList_concat (pairs : List (String × α)) (name : String) (value : α) :
    ofList (pairs ++ [(name, value)]) = (ofList pairs).insert name value := by
  rw [ofList, List.foldl_append]
  rfl

theorem find?_ofList_concat
    (pairs : List (String × α))
    (name : String)
    (value : α)
    (sought : String) :
    (ofList (pairs ++ [(name, value)])).find? sought =
      if name = sought then some value else (ofList pairs).find? sought := by
  rw [ofList_concat, find?_insert]

/-- The map has the names of the pairs and no others. -/
theorem mem_names_ofList {pairs : List (String × α)} {name : String} :
    name ∈ (ofList pairs).names ↔ name ∈ pairs.map Prod.fst := by
  induction pairs using List.reverseRecOn with
  | nil => rfl
  | append_singleton pairs last inductionHypothesis =>
    rw [mem_names_iff, find?_ofList_concat, List.map_append, List.mem_append,
      ← inductionHypothesis, mem_names_iff]
    by_cases same : last.1 = name
    · simp [same]
    · simp [same, Ne.symm same]

/-- No name has an entry of its own more than once. -/
theorem names_ofList_perm (pairs : List (String × α)) :
    (ofList pairs).names.Perm (pairs.map Prod.fst).dedup := by
  rw [List.perm_ext_iff_of_nodup (nodup_names _) (List.nodup_dedup _)]
  intro name
  rw [mem_names_ofList, List.mem_dedup]

/-- There are as many entries as different names. -/
theorem size_ofList (pairs : List (String × α)) :
    (ofList pairs).size = (pairs.map Prod.fst).dedup.length := by
  rw [← (names_ofList_perm pairs).length_eq, names, List.length_map, size]

theorem size_ofList_le (pairs : List (String × α)) : (ofList pairs).size ≤ pairs.length := by
  calc
    (ofList pairs).size = (pairs.map Prod.fst).dedup.length := size_ofList pairs
    _ ≤ (pairs.map Prod.fst).length := (List.dedup_sublist _).length_le
    _ = pairs.length := List.length_map _

/-- Every pair has an entry of its own just if no name stands twice among the pairs. -/
theorem size_ofList_eq_length_iff {pairs : List (String × α)} :
    (ofList pairs).size = pairs.length ↔ (pairs.map Prod.fst).Nodup := by
  have length : (pairs.map Prod.fst).length = pairs.length := List.length_map _
  rw [size_ofList, ← length, ← List.dedup_eq_self]
  constructor
  · exact (List.dedup_sublist _).eq_of_length
  · exact congrArg List.length

/-- The last pair with a name is found under it. -/
theorem find?_ofList_of_last
    {name : String}
    {after : List (String × α)}
    (last : name ∉ after.map Prod.fst)
    (before : List (String × α))
    (value : α) :
    (ofList (before ++ (name, value) :: after)).find? name = some value := by
  induction after using List.reverseRecOn with
  | nil => rw [find?_ofList_concat, if_pos rfl]
  | append_singleton after other inductionHypothesis =>
    rw [List.map_append, List.mem_append, not_or, List.map_singleton, List.mem_singleton] at last
    rw [← List.cons_append, ← List.append_assoc, find?_ofList_concat, if_neg (Ne.symm last.2)]
    exact inductionHypothesis last.1

theorem find?_ofList_of_getElem?
    {pairs : List (String × α)}
    {place : Nat}
    {name : String}
    {value : α}
    (isPair : pairs[place]? = some (name, value))
    (last : name ∉ (pairs.drop (place + 1)).map Prod.fst) :
    (ofList pairs).find? name = some value := by
  obtain ⟨inside, same⟩ := List.getElem?_eq_some_iff.mp isPair
  have split : pairs = pairs.take place ++ (name, value) :: pairs.drop (place + 1) := by
    rw [← same, ← List.drop_eq_getElem_cons inside, List.take_append_drop]
  rw [split]
  exact find?_ofList_of_last last _ value

/-- What is found under a name is the value of the last pair with that name. -/
theorem find?_ofList_eq_some_iff
    {pairs : List (String × α)}
    {name : String}
    {value : α} :
    (ofList pairs).find? name = some value ↔
      ∃ before after, pairs = before ++ (name, value) :: after ∧ name ∉ after.map Prod.fst := by
  constructor
  · intro found
    induction pairs using List.reverseRecOn with
    | nil => cases found
    | append_singleton pairs last inductionHypothesis =>
      rw [find?_ofList_concat] at found
      split at found
      · next same =>
        refine ⟨pairs, [], ?_, List.not_mem_nil⟩
        rw [← same, ← Option.some.inj found]
      · next different =>
        obtain ⟨before, after, split, absent⟩ := inductionHypothesis found
        refine ⟨before, after ++ [last], ?_, ?_⟩
        · rw [split, List.append_assoc, List.cons_append]
        · rw [List.map_append, List.mem_append, not_or, List.map_singleton, List.mem_singleton]
          exact ⟨absent, Ne.symm different⟩
  · rintro ⟨before, after, rfl, absent⟩
    exact find?_ofList_of_last absent before value

/-- Whatever is found under a name is the value of a pair with that name. -/
theorem mem_of_find?_ofList
    {pairs : List (String × α)}
    {name : String}
    {value : α}
    (found : (ofList pairs).find? name = some value) :
    (name, value) ∈ pairs := by
  obtain ⟨before, after, rfl, -⟩ := find?_ofList_eq_some_iff.mp found
  exact List.mem_append_right before List.mem_cons_self

/-- If no name stands twice, every pair is found. -/
theorem find?_ofList_of_mem
    {pairs : List (String × α)}
    (distinct : (pairs.map Prod.fst).Nodup)
    {name : String}
    {value : α}
    (member : (name, value) ∈ pairs) :
    (ofList pairs).find? name = some value := by
  obtain ⟨before, after, split⟩ := List.append_of_mem member
  rw [split, List.map_append, List.map_cons, List.nodup_append, List.nodup_cons] at distinct
  rw [split]
  exact find?_ofList_of_last distinct.2.1.1 before value

/-- If no name stands twice, the entries are the pairs. -/
theorem entries_ofList_perm
    {pairs : List (String × α)}
    (distinct : (pairs.map Prod.fst).Nodup) :
    (ofList pairs).entries.Perm pairs := by
  induction pairs using List.reverseRecOn with
  | nil => exact List.Perm.nil
  | append_singleton pairs last inductionHypothesis =>
    rw [List.map_append, List.map_singleton, List.nodup_append] at distinct
    obtain ⟨distinct, -, apart⟩ := distinct
    have fresh : ∀ entry ∈ (ofList pairs).entries, entry.1 ≠ last.1 := by
      intro entry isEntry
      exact apart entry.1 (mem_names_ofList.mp (List.mem_map_of_mem isEntry)) last.1
        List.mem_cons_self
    rw [ofList_concat, entries_insert]
    exact ((insertEntry_perm last.2 fresh).trans ((inductionHypothesis distinct).cons last)).trans
      (List.perm_append_singleton last pairs).symm

/-- A map is made of its entries, in whatever order they come. -/
theorem ofList_eq_of_perm
    {map : NameMap α}
    {pairs : List (String × α)}
    (same : pairs.Perm map.entries) :
    ofList pairs = map := by
  have distinct : (pairs.map Prod.fst).Nodup :=
    (same.map Prod.fst).nodup_iff.mpr map.nodup_names
  exact eq_of_entries_perm ((entries_ofList_perm distinct).trans same)

end NameMap
end Holdout
