/-!
# Finite maps keyed by names

A map from names to values whose entries stand in increasing order of the name, so
that two maps with the same look-ups are equal. Strings are ordered by their code
points, which is also the order of their UTF-8 bytes.
-/

namespace Holdout

/-- Entries in strictly increasing order of their names. -/
def IncreasingNames (entries : List (String × α)) : Prop :=
  entries.Pairwise fun earlier later => earlier.1 < later.1

/-- A finite map from names to values. -/
structure NameMap (α : Type) where
  entries : List (String × α)
  increasing : IncreasingNames entries

namespace NameMap

/-- The map without entries. -/
def empty : NameMap α := ⟨[], List.Pairwise.nil⟩

instance : EmptyCollection (NameMap α) := ⟨empty⟩

instance : Inhabited (NameMap α) := ⟨empty⟩

/-- Place an entry among increasing ones, in place of one with the same name. -/
def insertEntry (name : String) (value : α) : List (String × α) → List (String × α)
  | [] => [(name, value)]
  | (other, held) :: rest =>
    if name < other then (name, value) :: (other, held) :: rest
    else if name = other then (name, value) :: rest
    else (other, held) :: insertEntry name value rest

theorem mem_insertEntry {name : String} {value : α} {entries : List (String × α)}
    {entry : String × α} (member : entry ∈ insertEntry name value entries) :
    entry = (name, value) ∨ entry ∈ entries := by
  induction entries with
  | nil => exact Or.inl (List.mem_singleton.mp member)
  | cons first rest hypothesis =>
    obtain ⟨other, held⟩ := first
    simp only [insertEntry] at member
    split at member
    · exact List.mem_cons.mp member
    · split at member
      · rcases List.mem_cons.mp member with found | found
        · exact Or.inl found
        · exact Or.inr (List.mem_cons_of_mem _ found)
      · rcases List.mem_cons.mp member with found | found
        · exact Or.inr (found ▸ List.mem_cons_self)
        · exact (hypothesis found).imp id (List.mem_cons_of_mem _)

theorem increasing_insertEntry (name : String) (value : α) {entries : List (String × α)}
    (increasing : IncreasingNames entries) :
    IncreasingNames (insertEntry name value entries) := by
  induction entries with
  | nil => exact List.pairwise_singleton _ _
  | cons first rest hypothesis =>
    obtain ⟨other, held⟩ := first
    obtain ⟨below, restIncreasing⟩ := List.pairwise_cons.mp increasing
    simp only [insertEntry]
    split
    · rename_i less
      refine List.pairwise_cons.mpr ⟨?_, increasing⟩
      intro entry member
      rcases List.mem_cons.mp member with found | found
      · exact found ▸ less
      · exact String.lt_trans less (below entry found)
    · rename_i notLess
      split
      · rename_i same
        exact List.pairwise_cons.mpr ⟨fun entry member => same ▸ below entry member,
          restIncreasing⟩
      · rename_i different
        refine List.pairwise_cons.mpr ⟨?_, hypothesis restIncreasing⟩
        intro entry member
        rcases mem_insertEntry member with found | found
        · subst found
          rcases Std.le_iff_lt_or_eq.mp (String.not_lt.mp notLess) with less | same
          · exact less
          · exact absurd same.symm different
        · exact below entry found

/-- The map with `value` under `name`. -/
def insert (map : NameMap α) (name : String) (value : α) : NameMap α :=
  ⟨insertEntry name value map.entries, increasing_insertEntry name value map.increasing⟩

/-- The map that the pairs give one after the other, a later pair replacing an earlier one. -/
def ofList (pairs : List (String × α)) : NameMap α :=
  pairs.foldl (fun map (name, value) => map.insert name value) empty

/-- The value of an entry with this name. -/
def findEntry (name : String) (entries : List (String × α)) : Option α :=
  (entries.find? fun entry => entry.1 = name).map Prod.snd

/-- The value under `name`. -/
def find? (map : NameMap α) (name : String) : Option α := findEntry name map.entries

/-- The map without the entry under `name`. -/
def erase (map : NameMap α) (name : String) : NameMap α :=
  ⟨map.entries.filter fun entry => entry.1 ≠ name, map.increasing.filter _⟩

/-- The names in increasing order. -/
def names (map : NameMap α) : List String := map.entries.map Prod.fst

/-- The values in the order of their names. -/
def values (map : NameMap α) : List α := map.entries.map Prod.snd

/-- The number of entries. -/
def size (map : NameMap α) : Nat := map.entries.length

/-- There are no entries. -/
def isEmpty (map : NameMap α) : Bool := map.entries.isEmpty

@[simp] theorem entries_empty : (empty : NameMap α).entries = [] := rfl

@[simp] theorem entries_insert (map : NameMap α) (name : String) (value : α) :
    (map.insert name value).entries = insertEntry name value map.entries := rfl

theorem eq_of_entries_eq {first second : NameMap α} (same : first.entries = second.entries) :
    first = second := by
  cases first; cases second; cases same; rfl

instance [DecidableEq α] : DecidableEq (NameMap α) := fun first second =>
  decidable_of_iff (first.entries = second.entries)
    ⟨eq_of_entries_eq, fun same => same ▸ rfl⟩

/-- Placing an entry under a new name leaves the others as they are. -/
theorem insertEntry_perm
    {name : String}
    (value : α)
    {entries : List (String × α)}
    (fresh : ∀ entry ∈ entries, entry.1 ≠ name) :
    (insertEntry name value entries).Perm ((name, value) :: entries) := by
  induction entries with
  | nil => exact List.Perm.refl _
  | cons first rest hypothesis =>
    obtain ⟨other, held⟩ := first
    have different : name ≠ other := (fresh (other, held) List.mem_cons_self).symm
    have restFresh : ∀ entry ∈ rest, entry.1 ≠ name :=
      fun entry member => fresh entry (List.mem_cons_of_mem _ member)
    simp only [insertEntry, if_neg different]
    split
    · exact List.Perm.refl _
    · exact ((hypothesis restFresh).cons _).trans (List.Perm.swap _ _ _)

/-- Maps with the same entries in any order are equal. -/
theorem eq_of_entries_perm
    {first second : NameMap α}
    (same : first.entries.Perm second.entries) :
    first = second := by
  apply eq_of_entries_eq
  refine same.eq_of_pairwise ?_ first.increasing second.increasing
  intro earlier later _ _ less greater
  exact absurd (String.lt_trans less greater) (String.lt_irrefl _)

@[simp] theorem findEntry_nil (name : String) :
    findEntry name ([] : List (String × α)) = none := rfl

theorem findEntry_cons (name : String) (entry : String × α) (rest : List (String × α)) :
    findEntry name (entry :: rest) =
      if entry.1 = name then some entry.2 else findEntry name rest := by
  by_cases same : entry.1 = name <;> simp [findEntry, same]

/-- After placing an entry, its name finds it and every other name finds what it found before. -/
theorem findEntry_insertEntry (name : String) (value : α) (entries : List (String × α))
    (sought : String) :
    findEntry sought (insertEntry name value entries) =
      if name = sought then some value else findEntry sought entries := by
  induction entries with
  | nil => simp [insertEntry, findEntry_cons]
  | cons first rest hypothesis =>
    obtain ⟨other, held⟩ := first
    simp only [insertEntry]
    split
    · simp [findEntry_cons]
    · split
      · rename_i same
        by_cases found : name = sought <;> simp_all [findEntry_cons]
      · rename_i different
        by_cases found : name = sought
        · subst found
          simp_all [findEntry_cons, Ne.symm different]
        · simp [findEntry_cons, hypothesis, found]

@[simp] theorem find?_insert (map : NameMap α) (name : String) (value : α) (sought : String) :
    (map.insert name value).find? sought =
      if name = sought then some value else map.find? sought :=
  findEntry_insertEntry name value map.entries sought

@[simp] theorem find?_empty (name : String) : (empty : NameMap α).find? name = none := rfl

/-- No two entries have the same name. -/
theorem nodup_names (map : NameMap α) : map.names.Nodup :=
  List.pairwise_map.mpr (map.increasing.imp fun {_ _} less => String.ne_of_lt less)

/-- Every name of the map finds a value. -/
theorem exists_find?_of_mem_names {map : NameMap α} {name : String} (member : name ∈ map.names) :
    ∃ value, map.find? name = some value := by
  obtain ⟨entry, isEntry, same⟩ := List.mem_map.mp member
  have found : (map.entries.find? fun entry => entry.1 = name).isSome :=
    List.find?_isSome.mpr ⟨entry, isEntry, decide_eq_true same⟩
  obtain ⟨first, isFirst⟩ := Option.isSome_iff_exists.mp found
  exact ⟨first.2, by rw [find?, findEntry, isFirst, Option.map_some]⟩

@[simp] theorem names_erase (map : NameMap α) (name : String) :
    (map.erase name).names = map.names.filter fun other => other ≠ name := by
  rw [names, names, List.filter_map]
  rfl

@[simp] theorem names_insert_empty (name : String) (value : α) :
    ((empty : NameMap α).insert name value).names = [name] := rfl

theorem isEmpty_eq_true_iff {map : NameMap α} : map.isEmpty = true ↔ map.names = [] := by
  rw [isEmpty, List.isEmpty_iff, names, List.map_eq_nil_iff]

end NameMap

end Holdout
