import Mathlib.Data.List.Nodup
import ClusterPool.Proofs.Selection.Reference

/-! How little a choice by rank changes. What comes before an item is unaffected by what else is in the
list, except that an item that is put in may come before it, too. So an item that is put in displaces at
most one of those chosen, and one that is taken out lets at most one in. -/
namespace ClusterPool.Selection

section
variable {α : Type} {rankOf : α → UInt64}

/-- Where a place is once an item was put in at another one. -/
private def moved (gap place : Nat) : Nat := if place < gap then place else place + 1

private theorem precedes_moved (gap : Nat) (first second : UInt64 × Nat) :
    precedes (first.1, moved gap first.2) (second.1, moved gap second.2) = precedes first second := by
  rw [Bool.eq_iff_iff, precedes_iff, precedes_iff]
  have order : moved gap first.2 ≤ moved gap second.2 ↔ first.2 ≤ second.2 := by
    unfold moved
    split <;> split <;> omega
  rw [order]

private theorem zipIdx_insert (before : List α) (new : α) (after : List α) :
    (before ++ new :: after).zipIdx =
      before.zipIdx.map (Prod.map id (moved before.length)) ++
        (new, before.length) :: (after.zipIdx before.length).map
          (Prod.map id (moved before.length)) := by
  have early : before.zipIdx.map (Prod.map id (moved before.length)) = before.zipIdx := by
    refine (List.map_congr_left fun entry member => ?_).trans (List.map_id _)
    exact Prod.ext rfl (if_pos (List.snd_lt_of_mem_zipIdx member))
  have late : (after.zipIdx before.length).map (Prod.map id (moved before.length)) =
      after.zipIdx (before.length + 1) := by
    rw [List.zipIdx_succ]
    refine List.map_congr_left fun entry member => ?_
    exact Prod.ext rfl (if_neg (Nat.not_lt.mpr (List.le_snd_of_mem_zipIdx member)))
  rw [early, late, List.zipIdx_append, List.zipIdx_cons, Nat.zero_add]

/-- Putting an item in takes nothing from before an entry. -/
private theorem leaders_insert (before : List α) (new : α) (after : List α) (item : α × Nat) :
    leaders rankOf (before ++ after) item ≤ leaders rankOf (before ++ new :: after)
      (Prod.map id (moved before.length) item) := by
  have moves : ∀ other : α × Nat,
      (!precedes (key rankOf (Prod.map id (moved before.length) item))
        (key rankOf (Prod.map id (moved before.length) other))) =
        !precedes (key rankOf item) (key rankOf other) := fun other =>
    congrArg not (precedes_moved before.length (key rankOf item) (key rankOf other))
  have same : ∀ entries : List (α × Nat),
      (entries.map (Prod.map id (moved before.length))).countP (fun other =>
        !precedes (key rankOf (Prod.map id (moved before.length) item)) (key rankOf other)) =
        entries.countP fun other => !precedes (key rankOf item) (key rankOf other) := fun entries => by
    rw [List.countP_map]
    exact List.countP_congr fun other _ => by rw [Function.comp_apply, moves]
  unfold leaders
  rw [zipIdx_insert, List.zipIdx_append, List.countP_append, List.countP_append, same,
    List.countP_cons, same, Nat.zero_add]
  omega

/-- What is chosen after an item was put in: the item, if it is, and of all others only such as were
chosen without it. -/
private theorem leastRanked_insert (count : Nat) (before : List α) (new : α) (after : List α) :
    ∃ early late : List α, early.Sublist before ∧ late.Sublist after ∧
      (early ++ late).Sublist (leastRanked rankOf count (before ++ after)) ∧
      leastRanked rankOf count (before ++ new :: after) = early ++
        ((if leaders rankOf (before ++ new :: after) (new, before.length) < count then [new] else []) ++
          late) := by
  -- The entries there were before, each asked again at the place it moved to.
  let still : α × Nat → Bool := fun item => decide
    (leaders rankOf (before ++ new :: after) (Prod.map id (moved before.length) item) < count)
  have kept : ∀ entries : List (α × Nat), (entries.filter still).Sublist
      (entries.filter fun item => leaders rankOf (before ++ after) item < count) := fun entries => by
    refine List.monotone_filter_right entries fun item few => ?_
    exact decide_eq_true
      (Nat.lt_of_le_of_lt (leaders_insert before new after item) (of_decide_eq_true few))
  refine ⟨(before.zipIdx.filter still).map (·.1),
    ((after.zipIdx before.length).filter still).map (·.1), ?_, ?_, ?_, ?_⟩
  · have part : ((before.zipIdx.filter still).map (·.1)).Sublist (before.zipIdx.map (·.1)) :=
      List.filter_sublist.map _
    rwa [List.zipIdx_map_fst] at part
  · have part : (((after.zipIdx before.length).filter still).map (·.1)).Sublist
      ((after.zipIdx before.length).map (·.1)) := List.filter_sublist.map _
    rwa [List.zipIdx_map_fst] at part
  · rw [leastRanked_eq, List.zipIdx_append, List.filter_append, List.map_append, Nat.zero_add]
    exact ((kept _).map _).append ((kept _).map _)
  · rw [leastRanked_eq, zipIdx_insert, List.filter_append, List.map_append, List.filter_map,
      List.map_map, List.filter_cons, List.filter_map]
    by_cases few : leaders rankOf (before ++ new :: after) (new, before.length) < count
    · rw [if_pos few, if_pos (decide_eq_true few), List.map_cons, List.map_map]
      rfl
    · rw [if_neg few, if_neg (by simpa using few), List.map_map]
      rfl

/-- The entry of an item that stands between others. -/
private theorem mem_chosen_between {count : Nat} {before : List α} {new : α} {after : List α} :
    (new, before.length) ∈ chosen rankOf count (before ++ new :: after) ↔
      leaders rankOf (before ++ new :: after) (new, before.length) < count := by
  rw [mem_chosen, List.mk_mem_zipIdx_iff_getElem?]
  simp

/-- An item that is not chosen is as if it were not there. -/
theorem leastRanked_of_not_chosen {count : Nat} {before : List α} {new : α} {after : List α}
    (outside : (new, before.length) ∉ chosen rankOf count (before ++ new :: after)) :
    leastRanked rankOf count (before ++ new :: after) =
      leastRanked rankOf count (before ++ after) := by
  obtain ⟨early, late, -, -, kept, shape⟩ :=
    @leastRanked_insert α rankOf count before new after
  rw [if_neg fun few => outside (mem_chosen_between.mpr few), List.nil_append] at shape
  -- As many are chosen without the item as with it, so none of them can be missing.
  have size := congrArg List.length shape
  rw [leastRanked_length] at size
  rw [shape]
  refine kept.eq_of_length_le ?_
  rw [leastRanked_length, ← size, List.length_append, List.length_append, List.length_cons]
  omega

/-- An item that is chosen stands where it is among those chosen, and all others would be chosen without
it, and with them at most one in its place. -/
def Displaces (choose : List α → List α) (before : List α) (item : α) (after : List α) : Prop :=
  ∃ early late : List α, early.Sublist before ∧ late.Sublist after ∧
    choose (before ++ item :: after) = early ++ item :: late ∧
    (early ++ late).Sublist (choose (before ++ after)) ∧
    (choose (before ++ after)).length ≤ (early ++ late).length + 1

theorem leastRanked_displaces {count : Nat} {before : List α} {new : α} {after : List α}
    (inside : (new, before.length) ∈ chosen rankOf count (before ++ new :: after)) :
    Displaces (leastRanked rankOf count) before new after := by
  obtain ⟨early, late, earlier, later, kept, shape⟩ :=
    @leastRanked_insert α rankOf count before new after
  rw [if_pos (mem_chosen_between.mp inside), List.singleton_append] at shape
  refine ⟨early, late, earlier, later, shape, kept, ?_⟩
  have size := congrArg List.length shape
  simp only [leastRanked_length, List.length_append, List.length_cons] at size ⊢
  omega

/-- The third item displaces the first one, and the second one stays. -/
example : leastRanked Nat.toUInt64 2 [5, 1, 7] = [5, 1] ∧
    leastRanked Nat.toUInt64 2 [5, 1, 3, 7] = [1, 3] := by
  cbv

/-- Who is chosen is chosen if more are asked for. -/
theorem leastRanked_mono {count more : Nat} (grows : count ≤ more) (items : List α) :
    (leastRanked rankOf count items).Sublist (leastRanked rankOf more items) := by
  rw [leastRanked_eq, leastRanked_eq]
  refine (List.monotone_filter_right items.zipIdx fun item few => ?_).map _
  exact decide_eq_true (Nat.lt_of_lt_of_le (of_decide_eq_true few) grows)

/-- Where no two items have the same rank, the ranks alone decide. -/
private theorem leastRanked_eq_filter (count : Nat) {items : List α}
    (distinct : (items.map rankOf).Nodup) : leastRanked rankOf count items =
      items.filter fun item => (items.countP fun other => rankOf other < rankOf item) < count := by
  have entries : (items.zipIdx.map fun item => rankOf item.1).Nodup := by
    have ranks : items.zipIdx.map (fun item => rankOf item.1) = items.map rankOf := by
      rw [← List.zipIdx_map_fst 0 items, List.map_map]
      simp [Function.comp_def]
    rwa [ranks]
  have decided : ∀ item ∈ items.zipIdx,
      leaders rankOf items item = items.countP fun other => rankOf other < rankOf item.1 := by
    intro item member
    have counted : (items.countP fun other => rankOf other < rankOf item.1) =
        items.zipIdx.countP fun other => rankOf other.1 < rankOf item.1 := by
      conv_lhs => rw [← List.zipIdx_map_fst 0 items, List.countP_map]
      rfl
    rw [counted]
    refine List.countP_congr fun other entry => ?_
    rw [Bool.not_eq_true', ← before_iff, decide_eq_true_eq]
    constructor
    · rintro (less | ⟨same, earlier⟩)
      · exact less
      · rw [List.inj_on_of_nodup_map entries entry member same] at earlier
        exact absurd earlier (Nat.lt_irrefl _)
    · exact .inl
  have part := List.filter_map (f := Prod.fst) (l := items.zipIdx)
    (p := fun item => decide ((items.countP fun other => rankOf other < rankOf item) < count))
  rw [List.zipIdx_map_fst] at part
  rw [leastRanked_eq, part]
  exact congrArg _ (List.filter_congr fun item member => by rw [decided item member]; rfl)

/-- Where no two items have the same rank, their order does not decide who is chosen. -/
theorem leastRanked_perm (count : Nat) {items reordered : List α} (order : items.Perm reordered)
    (distinct : (items.map rankOf).Nodup) :
    (leastRanked rankOf count items).Perm (leastRanked rankOf count reordered) := by
  have others : (reordered.map rankOf).Nodup := (order.map rankOf).nodup_iff.mp distinct
  rw [leastRanked_eq_filter count distinct, leastRanked_eq_filter count others]
  have same : (fun item => decide
      ((items.countP fun other => rankOf other < rankOf item) < count)) = fun item => decide
        ((reordered.countP fun other => rankOf other < rankOf item) < count) := by
    funext item
    rw [order.countP_eq]
  rw [same]
  exact order.filter _

variable (rankOf)

/-- What a choice by rank does where its items change: -/
structure Stable (choose : Nat → List α → List α) : Prop where
  /-- An item that is put in changes nothing, or is chosen and displaces at most one. -/
  insert : ∀ count before item after,
    choose count (before ++ item :: after) = choose count (before ++ after) ∨
      ((item, before.length) ∈ chosen rankOf count (before ++ item :: after) ∧
        Displaces (choose count) before item after)
  /-- An item that was not chosen changes nothing when it is taken out, -/
  removeOther : ∀ count before item after,
    (item, before.length) ∉ chosen rankOf count (before ++ item :: after) →
      choose count (before ++ after) = choose count (before ++ item :: after)
  /-- and one that was chosen leaves all others chosen and at most one more. -/
  removeChosen : ∀ count before item after,
    (item, before.length) ∈ chosen rankOf count (before ++ item :: after) →
      Displaces (choose count) before item after
  /-- Where one more is asked for, all those stay chosen that were, and at most one joins them. -/
  raise : ∀ count items, (choose count items).Sublist (choose (count + 1) items) ∧
    (choose (count + 1) items).length ≤ (choose count items).length + 1
  /-- The order does not matter to who is chosen, if all ranks differ. -/
  reorder : ∀ count items reordered, items.Perm reordered → (items.map rankOf).Nodup →
    (choose count items).Perm (choose count reordered)

variable {rankOf}

theorem leastRanked_stable : Stable rankOf (leastRanked rankOf) where
  insert count before item after := by
    by_cases inside : (item, before.length) ∈ chosen rankOf count (before ++ item :: after)
    · exact .inr ⟨inside, leastRanked_displaces inside⟩
    · exact .inl (leastRanked_of_not_chosen inside)
  removeOther _ _ _ _ outside := (leastRanked_of_not_chosen outside).symm
  removeChosen _ _ _ _ inside := leastRanked_displaces inside
  raise count items := by
    refine ⟨leastRanked_mono (Nat.le_succ count) items, ?_⟩
    rw [leastRanked_length, leastRanked_length]
    omega
  reorder count _ _ order distinct := leastRanked_perm count order distinct

end

/-- A pool that is limited serves almost the same clusters after a change of the configured ones. -/
theorem ranked_stable (identity : String) :
    Stable (fun cluster => rank identity cluster.name)
      fun atMost clusters => (ranked identity atMost).select clusters :=
  leastRanked_stable

end ClusterPool.Selection
