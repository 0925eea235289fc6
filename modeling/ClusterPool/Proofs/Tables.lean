import ClusterPool.Names.Lookup

/-! Which names tables and sets hold. Every law is read off the look-ups. -/
namespace ClusterPool

namespace NameTable

theorem contains_iff {table : NameTable α} {name : String} :
    table.contains name = true ↔ ∃ value, table.find? name = some value :=
  Option.isSome_iff_exists

theorem contains_eq_false_iff {table : NameTable α} {name : String} :
    table.contains name = false ↔ table.find? name = none := Option.isSome_eq_false_iff.trans
  Option.isNone_iff_eq_none

theorem contains_of_find? {table : NameTable α} {name : String} {value : α}
    (found : table.find? name = some value) : table.contains name = true :=
  contains_iff.mpr ⟨value, found⟩

@[simp] theorem contains_empty (name : String) : (empty : NameTable α).contains name = false := rfl

@[simp] theorem contains_insert (table : NameTable α) (name other : String) (value : α) :
    (table.insert name value).contains other = (decide (other = name) || table.contains other) := by
  by_cases same : other = name <;> simp [contains, same]

/-- The names of a table are those under which something is found. -/
theorem mem_names_iff {table : NameTable α} {name : String} :
    name ∈ table.names ↔ table.contains name = true := by
  rw [contains_iff, names, List.mem_map]
  constructor
  · rintro ⟨⟨_, value⟩, member, rfl⟩
    exact ⟨value, (find?_eq_some_iff _ _ _).mpr member⟩
  · rintro ⟨value, found⟩
    exact ⟨(name, value), (find?_eq_some_iff _ _ _).mp found, rfl⟩

theorem names_nodup (table : NameTable α) : table.names.Nodup :=
  List.pairwise_map.mpr (table.increasing.imp fun less same => by
    rw [same] at less
    exact String.lt_irrefl _ less)

/-- A table is as large as any list that has each of its names once. -/
theorem size_eq_length {table : NameTable α} {names : List String} (once : names.Nodup)
    (same : ∀ name, name ∈ names ↔ table.contains name = true) : table.size = names.length := by
  have reordered : table.names.Perm names :=
    (List.perm_ext_iff_of_nodup table.names_nodup once).mpr fun name =>
      mem_names_iff.trans (same name).symm
  rw [← reordered.length_eq]
  exact (List.length_map _).symm

/-- A list that has some names of a table once, and another that has the others. -/
theorem size_eq_add {table : NameTable α} {some others : List String} (once : some.Nodup)
    (onceMore : others.Nodup) (disjoint : ∀ name ∈ some, name ∉ others)
    (same : ∀ name, name ∈ some ∨ name ∈ others ↔ table.contains name = true) :
    table.size = some.length + others.length := by
  rw [← List.length_append]
  refine size_eq_length (List.nodup_append.mpr ⟨once, onceMore, ?_⟩) fun name => ?_
  · rintro name inside _ outside rfl
    exact disjoint name inside outside
  · rw [List.mem_append]
    exact same name

theorem find?_of_mem {table : NameTable α} {entry : String × α} (member : entry ∈ table.entries) :
    table.find? entry.1 = some entry.2 := (find?_eq_some_iff _ _ _).mpr member

/-- A table is empty as soon as it finds nothing. -/
theorem eq_empty_of_find? {table : NameTable α} (nothing : ∀ name, table.find? name = none) :
    table = empty := eq_of_find? fun name => by rw [nothing, find?_empty]

theorem isEmpty_iff {table : NameTable α} :
    table.isEmpty = true ↔ ∀ name, table.find? name = none := by
  constructor
  · intro none name
    rw [isEmpty, List.isEmpty_iff] at none
    simp [find?, none]
  · intro nothing
    rw [eq_empty_of_find? nothing]
    rfl

/-- A test on the names alone keeps or drops what is found under a name. -/
theorem find?_filter_names (table : NameTable α) (keep : String → Bool) (name : String) :
    (table.filter fun other _ => keep other).find? name =
      if keep name then table.find? name else none := by
  rw [find?_filter]
  cases table.find? name <;> cases keep name <;> rfl

theorem names_filter (table : NameTable α) (keep : String → Bool) :
    (table.filter fun name _ => keep name).names = table.names.filter keep := by
  rw [names, names, filter, List.filter_map]
  rfl

/-- Putting all entries of one table into another, changed on the way: what is found in the first
wins, and everything else is found where it was. -/
theorem find?_foldl_insert (change : α → β) (source : NameTable α) (target : NameTable β)
    (name : String) :
    (source.entries.foldl (fun table entry => table.insert entry.1 (change entry.2)) target).find?
        name = ((source.find? name).map change).or (target.find? name) := by
  obtain ⟨entries, increasing⟩ := source
  change (entries.foldl _ target).find? name = ((entries.lookup name).map change).or _
  induction entries generalizing target with
  | nil => simp
  | cons head rest ih =>
    obtain ⟨below, restIncreasing⟩ := List.pairwise_cons.mp increasing
    obtain ⟨first, value⟩ := head
    rw [List.foldl_cons, ih _ restIncreasing, find?_insert]
    by_cases same : name = first
    · subst same
      have absent : rest.lookup name = none := by
        refine List.lookup_eq_none_iff.mpr fun entry member => ?_
        have later : name < entry.1 := below entry member
        exact bne_iff_ne.mpr fun equal => String.lt_irrefl entry.1 (equal ▸ later)
      rw [absent, List.lookup_cons_self]
      simp
    · rw [List.lookup_cons, beq_false_of_ne same, if_neg same]

/-- A table is that of its own entries. -/
theorem ofEntries_entries (table : NameTable α) : ofEntries table.entries = table := by
  refine eq_of_find? fun name => ?_
  have found := find?_foldl_insert id table empty name
  simpa [ofEntries] using found

/-- The order in which its entries are put in makes no difference to a table. -/
theorem ofEntries_perm {entries : List (String × α)} {table : NameTable α}
    (order : entries.Perm table.entries) : ofEntries entries = table := by
  rw [← ofEntries_entries table]
  refine order.foldl_eq' (fun first one second two before => eq_of_find? fun name => ?_) empty
  have there := find?_of_mem (order.subset one)
  have also := find?_of_mem (order.subset two)
  by_cases same : first.1 = second.1
  · obtain rfl : first = second :=
      Prod.ext same (Option.some.inj (there.symm.trans (same ▸ also)))
    rfl
  · simp only [find?_insert]
    by_cases here : name = first.1
    · simp [here, same]
    · simp [here]

end NameTable

namespace NameSet
open NameTable

theorem contains_add (set : NameSet) (name other : String) :
    (set.add name).contains other = true ↔ other = name ∨ set.contains other = true := by
  simp [add]

theorem contains_union (left right : NameSet) (name : String) :
    (left.union right).contains name = true ↔
      left.contains name = true ∨ right.contains name = true := by
  have listed : name ∈ right.names ↔ right.contains name = true := mem_names_iff
  rw [← listed, union]
  generalize right.names = names
  induction names generalizing left with
  | nil => simp
  | cons first rest ih => simp [ih, contains_add, or_assoc, or_left_comm]

/-- Sets with the same names are equal. -/
theorem eq_of_contains {left right : NameSet}
    (same : ∀ name, left.contains name = true ↔ right.contains name = true) : left = right := by
  refine eq_of_find? fun name => ?_
  have agree := same name
  rw [contains_iff, contains_iff] at agree
  cases inLeft : left.find? name <;> cases inRight : right.find? name <;> simp_all

/-- Adding the same names twice adds them once. -/
theorem union_union_self (left right : NameSet) :
    (left.union right).union right = left.union right :=
  eq_of_contains fun name => by simp [contains_union]

/-- Every name of the first set is in the second. -/
instance : HasSubset NameSet :=
  ⟨fun left right => ∀ name, left.contains name = true → right.contains name = true⟩

instance (left right : NameSet) : Decidable (left ⊆ right) :=
  decidable_of_iff (∀ name ∈ left.names, right.contains name = true)
    (forall_congr' fun _ => imp_congr_left mem_names_iff)

theorem subset_antisymm {left right : NameSet} (there : left ⊆ right) (back : right ⊆ left) :
    left = right := eq_of_contains fun name => ⟨there name, back name⟩

/-- A union with fewer names than one of its parts is that part. -/
theorem union_subset_right_iff {left right : NameSet} : left.union right ⊆ right ↔ left ⊆ right := by
  constructor
  · exact fun within name inside => within name ((contains_union left right name).mpr (.inl inside))
  · exact fun within name inside =>
      ((contains_union left right name).mp inside).elim (within name) id

theorem subset_union_right (left right : NameSet) : right ⊆ left.union right :=
  fun name inside => (contains_union left right name).mpr (.inr inside)

theorem union_empty (set : NameSet) : set.union .empty = set :=
  eq_of_contains fun name => by simp [contains_union]

theorem union_self (set : NameSet) : set.union set = set :=
  eq_of_contains fun name => by simp [contains_union]

theorem empty_union (set : NameSet) : NameSet.union .empty set = set :=
  eq_of_contains fun name => by simp [contains_union]

end NameSet
end ClusterPool
