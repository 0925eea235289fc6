import ClusterPool.Holdings
import ClusterPool.Settings
import ClusterPool.Proofs.Tables
import Mathlib.Data.List.Nodup

/-! Grace periods, and how entries of retirement lapse. Ages and grace periods are held inside the width
of a stamp, and the bounds that this sets never decide whether a grace period is over. Reclaiming parts
the entries by the exact age of their slots, in whatever order they are taken out. Ages only grow, so
that it makes no difference how often one reclaims: what lapsed early is not found later, and nothing
else is missed. -/
namespace ClusterPool

private theorem toInt_ofInt_of_bounds {value : Int} (least : Int64.minValue.toInt ≤ value)
    (greatest : value ≤ Int64.maxValue.toInt) : (Int64.ofInt value).toInt = value :=
  Int64.toInt_ofInt_of_le least (Int.lt_of_le_of_lt greatest (by decide))

/-- An age is the difference of two stamps, as long as it fits into a stamp. -/
theorem Stamp.toInt_age (now since : Stamp) : (Stamp.age now since).toInt =
    max Int64.minValue.toInt (min (now.toInt - since.toInt) Int64.maxValue.toInt) := by
  have bounds : Int64.minValue.toInt ≤ Int64.maxValue.toInt := by decide
  exact toInt_ofInt_of_bounds (by omega) (by omega)

/-- A length of time in stamps is its whole milliseconds, up to the greatest stamp. -/
theorem Duration.toInt_clampedMillis (span : Duration) :
    span.clampedMillis.toInt = min (span.toMillis : Int) Int64.maxValue.toInt := by
  have bounds : Int64.minValue.toInt ≤ 0 ∧ 0 ≤ Int64.maxValue.toInt := by decide
  have whole : 0 ≤ (span.toMillis : Int) := Int.natCast_nonneg _
  exact toInt_ofInt_of_bounds (by omega) (by omega)

theorem Settings.graceMillis_nonneg (settings : Settings) : 0 ≤ settings.graceMillis.toInt := by
  have bounds : 0 ≤ Int64.maxValue.toInt := by decide
  rw [graceMillis, Duration.toInt_clampedMillis]
  omega

/-- A slot has served its grace period when the exact difference of the stamps says so. -/
theorem Holdings.isDue_iff {now : Stamp} {grace : Int64} {slot : Slot}
    (nonneg : 0 ≤ grace.toInt) :
    isDue now grace slot = true ↔ grace.toInt ≤ now.toInt - slot.since.toInt := by
  have least : Int64.minValue.toInt < 0 := by decide
  have greatest : grace.toInt ≤ Int64.maxValue.toInt := grace.toInt_le
  rw [isDue, decide_eq_true_iff, Int64.le_iff_toInt_le, Stamp.toInt_age]
  omega

theorem NameTable.entries_nodup (table : NameTable α) : table.entries.Nodup :=
  List.Nodup.of_map _ table.names_nodup

namespace Holdings

/-- The entries of `held` are parted into those that have served the grace period, by the exact
difference of two stamps, and those that have not. Each keeps its slot. -/
structure Parted (held : Holdings) (now : Stamp) (grace : Int64) (due left : Holdings) : Prop where
  due : ∀ cluster slot, due.find? cluster = some slot ↔
    held.find? cluster = some slot ∧ grace.toInt ≤ now.toInt - slot.since.toInt
  left : ∀ cluster slot, left.find? cluster = some slot ↔
    held.find? cluster = some slot ∧ now.toInt - slot.since.toInt < grace.toInt

/-- Takes the slots of these clusters out one after the other, as far as they are held. -/
def takeEach (held : Holdings) : List String → List (String × Slot) × Holdings
  | [] => ([], held)
  | cluster :: rest =>
    match held.take? cluster with
    | none => takeEach held rest
    | some (slot, left) =>
      let (taken, last) := takeEach left rest
      ((cluster, slot) :: taken, last)

section
variable {grace : Int64}

theorem takeDue_parts (nonneg : 0 ≤ grace.toInt) (held : Holdings) (now : Stamp) :
    held.Parted now grace (held.takeDue now grace).1 (held.takeDue now grace).2 where
  due cluster slot := by
    rw [takeDue, NameTable.find?_filter, Option.filter_eq_some_iff, isDue_iff nonneg]
  left cluster slot := by
    rw [takeDue, NameTable.find?_filter, Option.filter_eq_some_iff, Bool.not_eq_true',
      ← Bool.not_eq_true, isDue_iff nonneg, Int.not_le]

end

/-- What is left without these clusters. -/
def without (held : Holdings) (clusters : List String) : Holdings :=
  held.filter fun cluster _ => !clusters.contains cluster

@[simp] theorem find?_without (held : Holdings) (clusters : List String) (cluster : String) :
    (held.without clusters).find? cluster =
      if cluster ∈ clusters then none else held.find? cluster := by
  rw [without, NameTable.find?_filter_names held fun cluster => !clusters.contains cluster]
  by_cases member : cluster ∈ clusters <;> simp [member]

/-- Slots that are taken out by name, each once, are those found under the names. -/
theorem takeEach_eq (held : Holdings) {clusters : List String} (once : clusters.Nodup) :
    held.takeEach clusters =
      (clusters.filterMap fun cluster => (held.find? cluster).map fun slot => (cluster, slot),
        held.without clusters) := by
  induction clusters generalizing held with
  | nil => exact Prod.ext rfl (NameTable.eq_of_find? fun name => by simp [takeEach])
  | cons cluster rest ih =>
    obtain ⟨absent, once⟩ := List.nodup_cons.mp once
    cases found : held.find? cluster with
    | none =>
      have same : held.without rest = held.without (cluster :: rest) :=
        NameTable.eq_of_find? fun name => by
          by_cases here : name = cluster <;> simp [here, found]
      rw [takeEach, take?, found, List.filterMap_cons, found, ← same]
      exact ih held once
    | some slot =>
      have others : ∀ other ∈ rest, (held.erase cluster).find? other = held.find? other :=
        fun other member => by
          have differs : other ≠ cluster := fun same => absent (same ▸ member)
          rw [NameTable.find?_erase, if_neg differs]
      have same : without (held.erase cluster) rest = held.without (cluster :: rest) :=
        NameTable.eq_of_find? fun name => by
          by_cases here : name = cluster <;> simp [here]
      rw [takeEach, take?, found, List.filterMap_cons, found, ← same]
      refine (congrArg (fun last : _ × Holdings => ((cluster, slot) :: last.1, last.2))
        (ih _ once)).trans ?_
      rw [List.filterMap_congr fun other member => by rw [others other member]]
      rfl

/-- It makes no difference in which order the due entries are taken out. -/
theorem takeEach_due (held : Holdings) (now : Stamp) (grace : Int64) {clusters : List String}
    (order : clusters.Perm (held.takeDue now grace).1.names) :
    (held.takeEach clusters).1.Perm (held.takeDue now grace).1.entries ∧
      (held.takeEach clusters).2 = (held.takeDue now grace).2 := by
  rw [takeEach_eq held (order.nodup_iff.mpr (NameTable.names_nodup _))]
  constructor
  · refine (order.filterMap _).trans (.of_eq ?_)
    rw [NameTable.names, List.filterMap_map]
    refine (List.filterMap_congr fun entry member => ?_).trans List.filterMap_some
    have found := NameTable.find?_of_mem (List.mem_of_mem_filter member)
    simp [found]
  · refine NameTable.eq_of_find? fun cluster => ?_
    have listed : cluster ∈ clusters ↔
        ∃ slot, held.find? cluster = some slot ∧ isDue now grace slot = true := by
      rw [order.mem_iff, NameTable.mem_names_iff, NameTable.contains_iff]
      refine exists_congr fun slot => ?_
      rw [takeDue, NameTable.find?_filter, Option.filter_eq_some_iff]
    rw [find?_without, takeDue, NameTable.find?_filter]
    cases found : held.find? cluster with
    | none => simp
    | some slot => cases due : isDue now grace slot <;> simp [listed, found, due, Option.filter]

/-- What is due early is due late. -/
theorem due_of_early {early late : Stamp} (ordered : early ≤ late) {grace : Int64} {slot : Slot}
    (due : grace.toInt ≤ early.toInt - slot.since.toInt) :
    grace.toInt ≤ late.toInt - slot.since.toInt := by
  have later := Int64.le_iff_toInt_le.mp ordered
  omega

/-- Every reclaiming parts the entries: those that have served the grace period by the exact age of
their slots are taken out, with their slots, and all others are left; and it makes no difference in
which order it takes them out. Reclaiming twice takes out what reclaiming once takes out at the
later time, each entry once, and leaves the same. -/
theorem lapses_alike (held : Holdings) {grace : Int64} (nonneg : 0 ≤ grace) {early late : Stamp}
    (ordered : early ≤ late) {first left second last : Holdings}
    (once : held.takeDue early grace = (first, left))
    (again : left.takeDue late grace = (second, last)) :
    (∀ now, held.Parted now grace (held.takeDue now grace).1 (held.takeDue now grace).2 ∧
      ∀ clusters, clusters.Perm (held.takeDue now grace).1.names →
        (held.takeEach clusters).1.Perm (held.takeDue now grace).1.entries ∧
          (held.takeEach clusters).2 = (held.takeDue now grace).2) ∧
    (∀ cluster, first.contains cluster = true → second.contains cluster = false) ∧
    (first.entries ++ second.entries).Perm (held.takeDue late grace).1.entries ∧
    last = (held.takeDue late grace).2 := by
  have nonneg : 0 ≤ grace.toInt := Int64.le_iff_toInt_le.mp nonneg
  have parts := takeDue_parts nonneg held early
  have partsAgain := takeDue_parts nonneg left late
  have whole := takeDue_parts nonneg held late
  rw [once] at parts
  rw [again] at partsAgain
  have apart : ∀ cluster slot other, first.find? cluster = some slot →
      second.find? cluster ≠ some other := by
    intro cluster slot other taken takenAgain
    obtain ⟨found, due⟩ := (parts.due cluster slot).mp taken
    obtain ⟨stays, _⟩ := (partsAgain.due cluster other).mp takenAgain
    obtain ⟨foundAgain, young⟩ := (parts.left cluster other).mp stays
    cases found.symm.trans foundAgain
    omega
  refine ⟨fun now => ⟨takeDue_parts nonneg held now, fun _ => held.takeEach_due now grace⟩,
    ?_, ?_, ?_⟩
  · intro cluster taken
    obtain ⟨slot, found⟩ := NameTable.contains_iff.mp taken
    refine Bool.eq_false_iff.mpr fun takenAgain => ?_
    obtain ⟨other, foundAgain⟩ := NameTable.contains_iff.mp takenAgain
    exact apart cluster slot other found foundAgain
  · refine (List.perm_ext_iff_of_nodup ?_ (NameTable.entries_nodup _)).mpr ?_
    · refine List.nodup_append'.mpr ⟨first.entries_nodup, second.entries_nodup, ?_⟩
      exact fun entry one other => apart entry.1 entry.2 entry.2 (NameTable.find?_of_mem one)
        (NameTable.find?_of_mem other)
    · rintro ⟨cluster, slot⟩
      rw [List.mem_append, ← NameTable.find?_eq_some_iff, ← NameTable.find?_eq_some_iff,
        ← NameTable.find?_eq_some_iff, parts.due, partsAgain.due, parts.left, whole.due]
      constructor
      · rintro (⟨found, due⟩ | ⟨⟨found, _⟩, due⟩)
        · exact ⟨found, due_of_early ordered due⟩
        · exact ⟨found, due⟩
      · rintro ⟨found, due⟩
        by_cases already : grace.toInt ≤ early.toInt - slot.since.toInt
        · exact .inl ⟨found, already⟩
        · exact .inr ⟨⟨found, Int.not_le.mp already⟩, due⟩
  · refine NameTable.eq_of_find? fun cluster => Option.ext fun slot => ?_
    rw [partsAgain.left, parts.left, whole.left]
    constructor
    · rintro ⟨⟨found, _⟩, young⟩
      exact ⟨found, young⟩
    · rintro ⟨found, young⟩
      exact ⟨⟨found, Int.not_le.mp fun due => Int.not_le.mpr young (due_of_early ordered due)⟩,
        young⟩

/-- Slots from the least stamp on, from zero and from one. -/
def ancients : Holdings :=
  .ofEntries [("A", ⟨0, .minValue⟩), ("B", ⟨1, 0⟩), ("C", ⟨2, 1⟩)]

/-- With the longest grace period that there is, the first of them lapses just before zero, and the
second at the greatest stamp, when the age of the first does not fit into a stamp any more. -/
theorem lapses_alike_of_ancients :
    (0 : Int64) ≤ .maxValue ∧ (-1 : Stamp) ≤ .maxValue ∧
    (ancients.takeDue (-1) .maxValue).1.entries = [("A", ⟨0, .minValue⟩)] ∧
    [("A", ⟨0, .minValue⟩), ("B", ⟨1, 0⟩)].Perm (ancients.takeDue .maxValue .maxValue).1.entries ∧
    (ancients.takeDue .maxValue .maxValue).2.entries = [("C", ⟨2, 1⟩)] := by
  have early : ancients.takeDue (-1) .maxValue =
      (.ofEntries [("A", ⟨0, .minValue⟩)], .ofEntries [("B", ⟨1, 0⟩), ("C", ⟨2, 1⟩)]) := by decide
  have late : takeDue (.ofEntries [("B", ⟨1, 0⟩), ("C", ⟨2, 1⟩)]) .maxValue .maxValue =
      (.ofEntries [("B", ⟨1, 0⟩)], .ofEntries [("C", ⟨2, 1⟩)]) := by decide
  obtain ⟨_, _, together, last⟩ := lapses_alike ancients (by decide) (by decide) early late
  refine ⟨by decide, by decide, congrArg (·.1.entries) early, together, ?_⟩
  exact (congrArg NameTable.entries last).symm

end Holdings
end ClusterPool
