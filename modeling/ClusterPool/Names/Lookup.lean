import ClusterPool.Names.Basic

/-! What a look-up finds after each operation on a table. A table is known by its look-ups: two
tables that answer alike are equal. -/
namespace ClusterPool.NameTable

private theorem lookup_cons_if (name : String) (head : String × α) (rest : List (String × α)) :
    (head :: rest).lookup name = if name = head.1 then some head.2 else rest.lookup name := by
  obtain ⟨first, value⟩ := head
  by_cases same : name = first
  · simp [same]
  · simp [List.lookup_cons, same, beq_eq_false_iff_ne.mpr same]

theorem lookup_insertEntry (name other : String) (value : α) (entries : List (String × α)) :
    (insertEntry name value entries).lookup other =
      if other = name then some value else entries.lookup other := by
  induction entries with
  | nil => simp [insertEntry, lookup_cons_if]
  | cons head rest ih =>
    unfold insertEntry
    split
    · simp [lookup_cons_if]
    · split
      · rename_i after
        by_cases same : other = head.1
        · have differs : head.1 ≠ name := fun equal => String.lt_irrefl name (equal ▸ after)
          simp [lookup_cons_if, same, differs]
        · simp [lookup_cons_if, same, ih]
      · rename_i notBefore notAfter
        have same : name = head.1 :=
          String.le_antisymm (String.not_lt.mp notAfter) (String.not_lt.mp notBefore)
        by_cases hit : other = head.1 <;> simp [lookup_cons_if, same, hit]

@[simp] theorem find?_empty (name : String) : (empty : NameTable α).find? name = none := rfl

@[simp] theorem find?_insert (table : NameTable α) (name other : String) (value : α) :
    (table.insert name value).find? other =
      if other = name then some value else table.find? other :=
  lookup_insertEntry name other value table.entries

/-- Looking up a name finds exactly the entry under it. -/
theorem find?_eq_some_iff (table : NameTable α) (name : String) (value : α) :
    table.find? name = some value ↔ (name, value) ∈ table.entries := by
  obtain ⟨entries, increasing⟩ := table
  change entries.lookup name = some value ↔ (name, value) ∈ entries
  induction entries with
  | nil => simp
  | cons head rest ih =>
    obtain ⟨below, restIncreasing⟩ := List.pairwise_cons.mp increasing
    rw [lookup_cons_if, List.mem_cons]
    by_cases same : name = head.1
    · have absent : (name, value) ∉ rest := fun inside =>
        String.lt_irrefl name (by simpa [← same] using below _ inside)
      simp [same ▸ absent, same, Prod.ext_iff, eq_comm]
    · simp [same, ih restIncreasing, Prod.ext_iff]

private theorem eq_of_same_entries {left right : List (String × α)}
    (leftIncreasing : NamesIncrease left) (rightIncreasing : NamesIncrease right)
    (same : ∀ entry, entry ∈ left ↔ entry ∈ right) : left = right := by
  induction left generalizing right with
  | nil =>
    cases right with
    | nil => rfl
    | cons head rest => exact absurd ((same head).mpr List.mem_cons_self) (List.not_mem_nil)
  | cons first restLeft ih =>
    cases right with
    | nil => exact absurd ((same first).mp List.mem_cons_self) (List.not_mem_nil)
    | cons second restRight =>
      obtain ⟨belowFirst, leftTail⟩ := List.pairwise_cons.mp leftIncreasing
      obtain ⟨belowSecond, rightTail⟩ := List.pairwise_cons.mp rightIncreasing
      have heads : first = second := by
        rcases List.mem_cons.mp ((same first).mp List.mem_cons_self) with equal | inRight
        · exact equal
        · rcases List.mem_cons.mp ((same second).mpr List.mem_cons_self) with equal | inLeft
          · exact equal.symm
          · exact absurd (belowFirst second inLeft) (String.lt_asymm (belowSecond first inRight))
      subst heads
      have tails : ∀ entry, entry ∈ restLeft ↔ entry ∈ restRight := by
        intro entry
        constructor
        · intro inLeft
          have found := (same entry).mp (List.mem_cons_of_mem _ inLeft)
          rcases List.mem_cons.mp found with equal | inside
          · exact absurd (equal ▸ belowFirst entry inLeft) (String.lt_irrefl _)
          · exact inside
        · intro inRight
          have found := (same entry).mpr (List.mem_cons_of_mem _ inRight)
          rcases List.mem_cons.mp found with equal | inside
          · exact absurd (equal ▸ belowSecond entry inRight) (String.lt_irrefl _)
          · exact inside
      exact congrArg (first :: ·) (ih leftTail rightTail tails)

/-- Tables in which every name stands for the same are equal. -/
theorem eq_of_find? {left right : NameTable α}
    (same : ∀ name, left.find? name = right.find? name) : left = right := by
  have entries : left.entries = right.entries :=
    eq_of_same_entries left.increasing right.increasing fun (name, value) => by
      rw [← find?_eq_some_iff, ← find?_eq_some_iff, same]
  cases left
  cases right
  cases entries
  rfl

@[simp] theorem find?_filter (keep : String → α → Bool) (table : NameTable α) (name : String) :
    (table.filter keep).find? name = (table.find? name).filter (keep name) := by
  refine Option.ext fun value => ?_
  rw [find?_eq_some_iff, Option.filter_eq_some_iff, find?_eq_some_iff]
  simp [filter]

@[simp] theorem find?_erase (table : NameTable α) (name other : String) :
    (table.erase name).find? other = if other = name then none else table.find? other := by
  by_cases same : other = name <;> cases found : table.find? other <;> simp [erase, same, found]

end ClusterPool.NameTable
