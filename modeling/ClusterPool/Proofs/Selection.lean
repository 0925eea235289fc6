import ClusterPool.Selection

/-! Which items have the least ranks. An item is chosen if fewer than so many others come before it,
where those of smaller ranks come first and those of the same rank in their order. Of items with the
same rank, then, a later one is never chosen without the earlier ones. -/
namespace ClusterPool.Selection

theorem precedes_iff {first second : UInt64 × Nat} : precedes first second = true ↔
    first.1 < second.1 ∨ (first.1 = second.1 ∧ first.2 ≤ second.2) := by
  simp [precedes]

theorem precedes_total (first second : UInt64 × Nat) :
    (precedes first second || precedes second first) = true := by
  simp only [Bool.or_eq_true, precedes_iff, UInt64.lt_iff_toNat_lt, ← UInt64.toNat_inj]
  omega

theorem precedes_trans {first second third : UInt64 × Nat} (early : precedes first second = true)
    (late : precedes second third = true) : precedes first third = true := by
  simp only [precedes_iff, UInt64.lt_iff_toNat_lt, ← UInt64.toNat_inj] at early late ⊢
  omega

theorem precedes_antisymm {first second : UInt64 × Nat} (there : precedes first second = true)
    (back : precedes second first = true) : first = second := by
  simp only [precedes_iff, UInt64.lt_iff_toNat_lt, ← UInt64.toNat_inj] at there back
  refine Prod.ext (UInt64.toNat_inj.mp ?_) ?_ <;> omega

section
variable {α : Type} (rankOf : α → UInt64)

/-- What decides where an item comes: its rank, and its place among those of the same rank. -/
def key (item : α × Nat) : UInt64 × Nat := (rankOf item.1, item.2)

/-- How many of the items come before one. -/
def leaders (items : List α) (item : α × Nat) : Nat :=
  items.zipIdx.countP fun other => !precedes (key rankOf item) (key rankOf other)

/-- Of a list in which everything comes before all that follows, the first `count` are those before
which fewer than `count` come. -/
private theorem filter_eq_take {before : β → β → Bool}
    (asymmetric : ∀ first second, before first second = true → before second first = false)
    {sorted : List β} (increases : sorted.Pairwise fun first second => before first second = true)
    (count : Nat) :
    (sorted.filter fun item => decide (sorted.countP (before · item) < count)) =
      sorted.take count := by
  induction sorted generalizing count with
  | nil => simp
  | cons head rest ih =>
    obtain ⟨below, restIncreases⟩ := List.pairwise_cons.mp increases
    have none : (head :: rest).countP (before · head) = 0 := by
      refine List.countP_eq_zero.mpr fun item member => ?_
      rcases List.mem_cons.mp member with rfl | inside
      · exact fun itself => by simpa [itself] using asymmetric item item itself
      · simp [asymmetric head item (below item inside)]
    cases count with
    | zero => simp
    | succ count =>
      rw [List.filter_cons_of_pos (by rw [none]; simp), List.take_succ_cons, ← ih restIncreases]
      refine congrArg (head :: ·) (List.filter_congr fun item member => ?_)
      simp only [List.countP_cons_of_pos (p := (before · item)) (below item member),
        Nat.add_lt_add_iff_right]

variable {rankOf}

/-- Every place has one key. -/
theorem places_nodup (items : List α) : ((items.zipIdx.map (key rankOf)).map (·.2)).Nodup := by
  rw [List.map_map]
  change (items.zipIdx.map Prod.snd).Nodup
  rw [List.zipIdx_map_snd]
  exact List.nodup_range'

private theorem keys_increase (items : List α) :
    ((items.zipIdx.map (key rankOf)).mergeSort precedes).Pairwise
      fun first second => (!precedes second first) = true := by
  have sorted := @List.pairwise_mergeSort _ precedes (fun _ _ _ => precedes_trans) precedes_total
    (items.zipIdx.map (key rankOf))
  have once : (items.zipIdx.map (key rankOf)).Nodup :=
    (List.pairwise_map.mp (places_nodup items)).imp fun differs same => differs (congrArg Prod.snd same)
  refine (sorted.and ((List.mergeSort_perm _ precedes).nodup_iff.mpr once)).imp ?_
  rintro first second ⟨before, differs⟩
  simpa using fun back => differs (precedes_antisymm before back)

/-- The keys of the least ranks are those before which few enough others come. -/
private theorem leastKeys_eq (count : Nat) (items : List α) :
    ((items.zipIdx.map (key rankOf)).mergeSort precedes).take count =
      ((items.zipIdx.map (key rankOf)).mergeSort precedes).filter fun place =>
        decide ((items.zipIdx.countP fun other => !precedes place (key rankOf other)) < count) := by
  have asymmetric : ∀ first second : UInt64 × Nat,
      (!precedes second first) = true → (!precedes first second) = false := by
    intro first second before
    have either := precedes_total first second
    simp_all
  rw [← filter_eq_take asymmetric (keys_increase items)]
  refine List.filter_congr fun place _ => ?_
  rw [(List.mergeSort_perm (items.zipIdx.map (key rankOf)) precedes).countP_eq, List.countP_map]
  rfl

/-- The least places are those of the items before which few enough others come. -/
theorem mem_leastPlaces {count : Nat} {items : List α} {item : α × Nat}
    (member : item ∈ items.zipIdx) :
    item.2 ∈ leastPlaces rankOf count items ↔ leaders rankOf items item < count := by
  have keys : leastPlaces rankOf count items =
      (((items.zipIdx.map (key rankOf)).mergeSort precedes).take count).map (·.2) := rfl
  rw [keys, leastKeys_eq]
  simp only [List.mem_map, List.mem_filter, List.mem_mergeSort, decide_eq_true_eq]
  constructor
  · rintro ⟨_, ⟨⟨other, inside, rfl⟩, few⟩, same⟩
    have itself : other.1 = item.1 := Option.some.inj (by
      rw [← List.mem_zipIdx_iff_getElem?.mp inside, ← List.mem_zipIdx_iff_getElem?.mp member]
      exact congrArg (items[·]?) same)
    exact Prod.ext itself same ▸ few
  · exact fun few => ⟨key rankOf item, ⟨⟨item, member, rfl⟩, few⟩, rfl⟩

/-- An item does not come before itself. -/
private theorem leaders_lt {items : List α} {item : α × Nat} (member : item ∈ items.zipIdx) :
    leaders rankOf items item < items.length := by
  have itself : precedes (key rankOf item) (key rankOf item) = true :=
    precedes_iff.mpr (.inr ⟨rfl, Nat.le_refl _⟩)
  have some : leaders rankOf items item ≠ items.zipIdx.length := fun all => by
    have ahead : (!precedes (key rankOf item) (key rankOf item)) = true :=
      List.countP_eq_length.mp all item member
    simp [itself] at ahead
  have most : leaders rankOf items item ≤ items.zipIdx.length := List.countP_le_length
  rw [List.length_zipIdx] at some most
  omega

/-- The items with the least ranks are those before which few enough others come. -/
theorem leastRanked_eq (count : Nat) (items : List α) : leastRanked rankOf count items =
    (items.zipIdx.filter fun item => leaders rankOf items item < count).map (·.1) := by
  unfold leastRanked
  split
  · rename_i few
    rw [List.filter_eq_self.mpr fun item member =>
      decide_eq_true (Nat.lt_of_lt_of_le (leaders_lt member) few)]
    exact (List.zipIdx_map_fst 0 items).symm
  · refine congrArg _ (List.filter_congr fun item member => ?_)
    rw [List.contains_eq_mem, decide_eq_decide]
    exact mem_leastPlaces member

/-- As many as asked for are chosen, as long as there are. -/
theorem leastRanked_length (count : Nat) (items : List α) :
    (leastRanked rankOf count items).length = min count items.length := by
  have reordered := List.mergeSort_perm (items.zipIdx.map (key rankOf)) precedes
  have least := congrArg List.length (@leastKeys_eq α rankOf count items)
  rw [← List.countP_eq_length_filter, reordered.countP_eq, List.countP_map, List.length_take,
    reordered.length_eq, List.length_map, List.length_zipIdx] at least
  rw [leastRanked_eq, List.length_map, ← List.countP_eq_length_filter, least]
  rfl

/-- Items that are ranked by a part of them have the parts of least rank. -/
theorem leastRanked_map {β : Type} (part : β → α) (count : Nat) (items : List β) :
    (leastRanked (fun item => rankOf (part item)) count items).map part =
      leastRanked rankOf count (items.map part) := by
  rw [leastRanked_eq, leastRanked_eq, List.zipIdx_map, List.filter_map, List.map_map, List.map_map]
  refine congrArg _ (List.filter_congr fun item _ => ?_)
  have same : leaders (fun item => rankOf (part item)) items item =
      leaders rankOf (items.map part) (Prod.map part id item) := by
    rw [leaders, leaders, List.zipIdx_map, List.countP_map]
    rfl
  rw [same]
  rfl

/-- No more come before an item than before those that come after it. -/
theorem leaders_le {items : List α} {first second : α × Nat}
    (order : precedes (key rankOf first) (key rankOf second) = true) :
    leaders rankOf items first ≤ leaders rankOf items second := by
  refine List.countP_mono_left fun other _ before => ?_
  rw [Bool.not_eq_true'] at before ⊢
  exact Bool.eq_false_iff.mpr fun after => Bool.eq_false_iff.mp before (precedes_trans order after)

/-- Of two items with the same rank, no more come before the earlier one. -/
theorem leaders_mono {items : List α} {first second : α × Nat} (same : rankOf first.1 = rankOf second.1)
    (earlier : first.2 ≤ second.2) :
    leaders rankOf items first ≤ leaders rankOf items second :=
  leaders_le (precedes_iff.mpr (.inr ⟨same, earlier⟩))

/-- Where a test holds of an entry only if it holds of the first one of the same kind, the kinds of
the entries that pass are those whose first entry passes. -/
private theorem eraseDups_filter [BEq α] [LawfulBEq α] {test : α × Nat → Bool} (holds : α → Bool)
    (entries : List (α × Nat)) (passes : ∀ entry ∈ entries, test entry = true → holds entry.1 = true)
    (first : ∀ kind, holds kind = true → ∀ entry, entries.find? (·.1 == kind) = some entry →
      test entry = true) :
    ((entries.filter test).map (·.1)).eraseDups = (entries.map (·.1)).eraseDups.filter holds := by
  induction size : entries.length using Nat.strongRecOn generalizing entries with
  | ind size ih =>
    cases entries with
    | nil => rfl
    | cons head rest =>
      -- What is of the same kind as the first entry is decided with it.
      have others := ih _ (by
          have fewer := List.length_filter_le (fun entry => !entry.1 == head.1) rest
          rw [← size, List.length_cons]
          omega)
        (rest.filter fun entry => !entry.1 == head.1)
        (fun entry member => passes entry (List.mem_cons_of_mem _ (List.mem_filter.mp member).1))
        (fun kind kindHolds entry found => by
          have other : kind ≠ head.1 := by
            rintro rfl
            have differs := (List.mem_filter.mp (List.mem_of_find?_eq_some found)).2
            simp [List.find?_some found] at differs
          refine first kind kindHolds entry ?_
          rw [List.find?_cons_of_neg (by simpa using Ne.symm other), ← found, List.find?_filter]
          refine congrArg (rest.find? ·) (funext fun entry => ?_)
          by_cases same : entry.1 = kind <;> simp [same, other])
        rfl
      have decided : holds head.1 = test head := by
        have itself : (head :: rest).find? (·.1 == head.1) = some head := by simp
        exact Bool.eq_iff_iff.mpr ⟨fun kindHolds => first _ kindHolds head itself,
          passes head List.mem_cons_self⟩
      have kinds : ((rest.map (·.1)).filter fun kind => !kind == head.1) =
          (rest.filter fun entry => !entry.1 == head.1).map (·.1) := List.filter_map
      rw [List.map_cons, List.eraseDups_cons, kinds]
      cases passed : test head with
      | true =>
        have late : (((rest.filter test).map (·.1)).filter fun kind => !kind == head.1) =
            ((rest.filter fun entry => !entry.1 == head.1).filter test).map (·.1) := by
          rw [List.filter_map, List.filter_filter, List.filter_filter]
          refine congrArg _ (List.filter_congr fun entry _ => ?_)
          exact Bool.and_comm _ _
        rw [List.filter_cons_of_pos passed, List.map_cons, List.eraseDups_cons, late, others,
          List.filter_cons_of_pos (by rw [decided, passed])]
      | false =>
        have all : rest.filter test = (rest.filter fun entry => !entry.1 == head.1).filter test := by
          rw [List.filter_filter]
          refine List.filter_congr fun entry member => ?_
          by_cases same : entry.1 = head.1
          · have fails : test entry = false := Bool.eq_false_iff.mpr fun succeeds => by
              have kindHolds := passes entry (List.mem_cons_of_mem _ member) succeeds
              rw [same, decided, passed] at kindHolds
              cases kindHolds
            simp [fails]
          · simp [same]
        rw [List.filter_cons_of_neg (by simp [passed]), all, others,
          List.filter_cons_of_neg (by simp [decided, passed])]

/-- Nothing is found before its first place. -/
private theorem idxOf_le [BEq α] [LawfulBEq α] {items : List α} {item : α} {place : Nat}
    (found : items[place]? = some item) : items.idxOf item ≤ place := by
  obtain ⟨inside, rfl⟩ := List.getElem?_eq_some_iff.mp found
  refine Nat.le_of_not_lt fun before => ?_
  have differs := List.not_of_lt_findIdx before
  simp at differs

/-- The first entry of a kind is at its first place. -/
private theorem find?_zipIdx [BEq α] [LawfulBEq α] {items : List α} {item : α} {entry : α × Nat}
    (found : items.zipIdx.find? (·.1 == item) = some entry) :
    entry.1 = item ∧ entry.2 ≤ items.idxOf item := by
  obtain ⟨same, place, inside, rfl, others⟩ := List.find?_eq_some_iff_getElem.mp found
  have itself : items.zipIdx[place].1 = item := by simpa using same
  refine ⟨itself, Nat.le_of_not_lt fun before => ?_⟩
  rw [List.getElem_zipIdx] at before
  have differs := others (items.idxOf item) (by simpa using before)
  rw [List.getElem_zipIdx] at differs
  simp [List.getElem_idxOf] at differs

/-- Of items that repeat, those are chosen whose first entry is. -/
theorem leastRanked_eraseDups [DecidableEq α] (count : Nat) (items : List α) :
    (leastRanked rankOf count items).eraseDups = items.eraseDups.filter fun item =>
      leaders rankOf items (item, items.idxOf item) < count := by
  have fewer : ∀ first second : α × Nat, rankOf first.1 = rankOf second.1 →
      first.2 ≤ second.2 → decide (leaders rankOf items second < count) = true →
        decide (leaders rankOf items first < count) = true := fun _ _ same earlier few =>
    decide_eq_true (Nat.lt_of_le_of_lt (leaders_mono same earlier) (of_decide_eq_true few))
  rw [leastRanked_eq, eraseDups_filter
    fun item => leaders rankOf items (item, items.idxOf item) < count, List.zipIdx_map_fst]
  · intro entry member few
    have earlier : items.idxOf entry.1 ≤ entry.2 :=
      idxOf_le (List.mem_zipIdx_iff_getElem?.mp member)
    exact fewer (entry.1, _) entry rfl earlier few
  · intro item few entry found
    obtain ⟨same, earlier⟩ := find?_zipIdx found
    exact fewer entry (item, _) (congrArg rankOf same) earlier few

private theorem eraseDups_length [BEq α] [LawfulBEq α] (items : List α) :
    items.eraseDups.length ≤ items.length ∧
      (items.eraseDups.length = items.length ↔ items.Nodup) := by
  induction size : items.length using Nat.strongRecOn generalizing items with
  | ind size ih =>
    cases items with
    | nil => simpa using size
    | cons head rest =>
      have fewer := List.length_filter_le (fun item => !item == head) rest
      have all := List.length_filter_eq_length_iff (p := fun item => !item == head) (l := rest)
      rw [List.length_cons] at size
      obtain ⟨most, once⟩ := ih _ (by omega) (rest.filter fun item => !item == head) rfl
      rw [List.eraseDups_cons, List.length_cons, List.nodup_cons]
      refine ⟨by omega, ?_⟩
      constructor
      · intro same
        have whole := all.mp (by omega)
        rw [List.filter_eq_self.mpr whole] at once
        exact ⟨fun again => by simpa using whole head again,
          once.mp (by rw [List.filter_eq_self.mpr whole] at same; omega)⟩
      · rintro ⟨new, restOnce⟩
        have whole : ∀ item ∈ rest, (!item == head) = true := fun item member => by
          simpa using fun same : item = head => new (same ▸ member)
        rw [List.filter_eq_self.mpr whole] at once ⊢
        rw [once.mpr restOnce, size]

/-- Of items that repeat, no more are chosen than asked for or than there are, each counted once. They
are as many if the choice has none of them twice, or has them all. -/
theorem leastRanked_kinds [DecidableEq α] (count : Nat) (items : List α) :
    (leastRanked rankOf count items).eraseDups.length ≤ min count items.eraseDups.length ∧
      ((leastRanked rankOf count items).eraseDups.length = min count items.eraseDups.length ↔
        (leastRanked rankOf count items).Nodup ∨
          ∀ item ∈ items, item ∈ leastRanked rankOf count items) := by
  have kinds := @leastRanked_eraseDups α rankOf _ count items
  obtain ⟨most, once⟩ := eraseDups_length (leastRanked rankOf count items)
  have repeats := (eraseDups_length items).1
  have fewer := List.length_filter_le
    (fun item => decide (leaders rankOf items (item, items.idxOf item) < count)) items.eraseDups
  have all : (leastRanked rankOf count items).eraseDups.length = items.eraseDups.length ↔
      ∀ item ∈ items, item ∈ leastRanked rankOf count items := by
    rw [kinds, List.length_filter_eq_length_iff]
    refine forall_congr' fun item => ?_
    rw [List.mem_eraseDups]
    refine imp_congr_right fun member => ?_
    rw [← List.mem_eraseDups, kinds, List.mem_filter, List.mem_eraseDups]
    exact ⟨fun few => ⟨member, few⟩, And.right⟩
  rw [← kinds] at fewer
  rw [← all, ← once]
  rw [leastRanked_length] at most ⊢
  omega

/-- What is chosen stays in its order. -/
theorem leastRanked_sublist (count : Nat) (items : List α) :
    (leastRanked rankOf count items).Sublist items := by
  have part : ((items.zipIdx.filter fun item => leaders rankOf items item < count).map (·.1)).Sublist
      (items.zipIdx.map (·.1)) := List.filter_sublist.map _
  rw [List.zipIdx_map_fst] at part
  exact @leastRanked_eq α rankOf count items ▸ part

/-- Where no item repeats, as many are chosen as asked for, as long as there are. -/
theorem leastRanked_kinds_of_nodup [DecidableEq α] (count : Nat) {items : List α}
    (once : items.Nodup) :
    (leastRanked rankOf count items).eraseDups.length = min count items.length :=
  ((eraseDups_length _).2.mpr (once.sublist (leastRanked_sublist count items))).trans
    (leastRanked_length count items)

end

end ClusterPool.Selection
