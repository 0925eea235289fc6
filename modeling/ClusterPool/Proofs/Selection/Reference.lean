import Mathlib.Data.List.Basic
import ClusterPool.Proofs.Selection

/-! What the choice of the least ranks is, told without sorting. An entry is chosen if fewer than so
many entries come before it; and sorting the entries, taking the first ones, and sorting their places
comes to the same, also for lists that are too short for anything to be left out. -/
namespace ClusterPool.Selection

section
variable {α : Type} (rankOf : α → UInt64)

/-- Smaller ranks come first, and of entries with the same rank those at earlier places. -/
def Before (first second : α × Nat) : Prop :=
  rankOf first.1 < rankOf second.1 ∨ (rankOf first.1 = rankOf second.1 ∧ first.2 < second.2)

instance (first second : α × Nat) : Decidable (Before rankOf first second) :=
  inferInstanceAs (Decidable (_ ∨ _))

/-- The entries before which fewer than `count` others come, in the order of their places. -/
def chosen (count : Nat) (items : List α) : List (α × Nat) :=
  items.zipIdx.filter fun item =>
    (items.zipIdx.countP fun other => Before rankOf other item) < count

/-- What stands at the least places, once these are sorted. -/
def atLeastPlaces (count : Nat) (items : List α) : List α :=
  ((leastPlaces rankOf count items).mergeSort fun first second => first ≤ second).filterMap
    fun place => items[place]?

variable {rankOf}

theorem before_iff {first second : α × Nat} :
    Before rankOf first second ↔ precedes (key rankOf second) (key rankOf first) = false := by
  rw [← Bool.not_eq_true, precedes_iff]
  simp only [Before, key, UInt64.lt_iff_toNat_lt, ← UInt64.toNat_inj]
  omega

theorem chosen_eq (count : Nat) (items : List α) : chosen rankOf count items =
    items.zipIdx.filter fun item => leaders rankOf items item < count := by
  refine List.filter_congr fun item _ => ?_
  have same : (items.zipIdx.countP fun other => Before rankOf other item) =
      leaders rankOf items item :=
    List.countP_congr fun other _ => by simp [before_iff]
  rw [same]

theorem mem_chosen {count : Nat} {items : List α} {item : α × Nat} :
    item ∈ chosen rankOf count items ↔
      item ∈ items.zipIdx ∧ leaders rankOf items item < count := by
  rw [chosen_eq, List.mem_filter, decide_eq_true_eq]

theorem leastRanked_eq_map_chosen (count : Nat) (items : List α) :
    leastRanked rankOf count items = (chosen rankOf count items).map (·.1) := by
  rw [leastRanked_eq, chosen_eq]

/-- An entry that is chosen comes before every entry that is not. -/
theorem before_of_chosen {count : Nat} {items : List α} {item other : α × Nat}
    (inside : item ∈ chosen rankOf count items) (entry : other ∈ items.zipIdx)
    (outside : other ∉ chosen rankOf count items) : Before rankOf item other := by
  obtain ⟨member, few⟩ := mem_chosen.mp inside
  rw [before_iff]
  refine Bool.eq_false_iff.mpr fun back => outside (mem_chosen.mpr ⟨entry, ?_⟩)
  exact Nat.lt_of_le_of_lt (leaders_le back) few

/-- The places of the chosen entries increase. -/
private theorem chosen_places_increase (count : Nat) (items : List α) :
    ((chosen rankOf count items).map (·.2)).Pairwise (· < ·) := by
  have places : (items.zipIdx.map (·.2)).Pairwise (· < ·) := by
    rw [List.zipIdx_map_snd]
    exact List.pairwise_lt_range'
  exact places.sublist (List.filter_sublist.map _)

/-- Sorting tells each place once. -/
private theorem leastPlaces_nodup (count : Nat) (items : List α) :
    (leastPlaces rankOf count items).Nodup := by
  have sorted := ((List.mergeSort_perm (items.zipIdx.map (key rankOf)) precedes).map (·.2)).nodup_iff
  exact (sorted.mpr (places_nodup items)).sublist ((List.take_sublist count _).map _)

/-- The least places are those of the chosen entries. -/
private theorem leastPlaces_perm (count : Nat) (items : List α) :
    (leastPlaces rankOf count items).Perm ((chosen rankOf count items).map (·.2)) := by
  refine (List.perm_ext_iff_of_nodup (leastPlaces_nodup count items)
    ((chosen_places_increase count items).imp Nat.ne_of_lt)).mpr fun place => ?_
  rw [List.mem_map]
  constructor
  · intro least
    obtain ⟨_, taken, rfl⟩ := List.mem_map.mp least
    have listed := List.mem_mergeSort.mp (List.mem_of_mem_take taken)
    obtain ⟨item, member, rfl⟩ := List.mem_map.mp listed
    exact ⟨item, mem_chosen.mpr ⟨member, (mem_leastPlaces member).mp least⟩, rfl⟩
  · rintro ⟨item, inside, rfl⟩
    obtain ⟨member, few⟩ := mem_chosen.mp inside
    exact (mem_leastPlaces member).mpr few

/-- Sorted, the least places lead to what was chosen. -/
theorem leastRanked_eq_atLeastPlaces (count : Nat) (items : List α) :
    leastRanked rankOf count items = atLeastPlaces rankOf count items := by
  have increases : ((leastPlaces rankOf count items).mergeSort fun first second => first ≤
      second).Pairwise (· ≤ ·) :=
    (List.pairwise_mergeSort (by simp; omega) (by simp; omega) _).imp of_decide_eq_true
  have places : ((chosen rankOf count items).map (·.2)).Pairwise (· ≤ ·) :=
    (chosen_places_increase count items).imp Nat.le_of_lt
  have sorted : ((leastPlaces rankOf count items).mergeSort fun first second => first ≤ second) =
      (chosen rankOf count items).map (·.2) :=
    ((List.mergeSort_perm _ _).trans (leastPlaces_perm count items)).eq_of_pairwise
      (fun _ _ _ _ => Nat.le_antisymm) increases places
  rw [atLeastPlaces, sorted, List.filterMap_map, leastRanked_eq_map_chosen, ← List.filterMap_eq_map]
  refine List.filterMap_congr fun item inside => ?_
  exact (List.mem_zipIdx_iff_getElem?.mp (mem_chosen.mp inside).1).symm

variable (rankOf)

/-- What it is to take the `count` least of some items: -/
structure TakesLeast (count : Nat) (items taken : List α) : Prop where
  /-- those before which fewer than `count` others come, as they are, -/
  few : taken = (chosen rankOf count items).map (·.1)
  /-- in the order they were in, -/
  inOrder : taken.Sublist items
  /-- as many as asked for, as long as there are, -/
  length : taken.length = min count items.length
  /-- all of them before all the others, -/
  least : ∀ item ∈ chosen rankOf count items, ∀ other ∈ items.zipIdx,
    other ∉ chosen rankOf count items → Before rankOf item other
  /-- and what sorting leads to. -/
  sorted : taken = atLeastPlaces rankOf count items

variable {rankOf}

theorem leastRanked_takesLeast (count : Nat) (items : List α) :
    TakesLeast rankOf count items (leastRanked rankOf count items) where
  few := leastRanked_eq_map_chosen count items
  inOrder := leastRanked_sublist count items
  length := leastRanked_length count items
  least _ inside _ entry outside := before_of_chosen inside entry outside
  sorted := leastRanked_eq_atLeastPlaces count items

end

/-- A choice by rank takes the least of the clusters, whatever they are ranked by, and a pool that is
limited takes them by the rank that their names have for it. -/
theorem takes_least :
    (∀ (α : Type) (rankOf : α → UInt64) (count : Nat) (items : List α),
      TakesLeast rankOf count items (leastRanked rankOf count items)) ∧
    ∀ (identity : String) (atMost : Nat) (clusters : List Cluster),
      TakesLeast (fun cluster => rank identity cluster.name) atMost clusters
        ((ranked identity atMost).select clusters) :=
  ⟨fun _ _ => leastRanked_takesLeast, fun _ => leastRanked_takesLeast⟩

/-- Of items with the same rank the earlier ones are taken. -/
example : leastRanked (fun item : Nat => if item = 7 then 1 else 0) 2 [7, 3, 4, 3] = [3, 4] := by
  cbv

end ClusterPool.Selection
