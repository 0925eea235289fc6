import ClusterPool.Proofs.Zone.Answers

/-! What the summary of a reconciliation says about change. It asks whether the routes were replaced,
whether a producer was built, and whether a cluster retired, and this is enough: a cluster that comes
back from retirement was in no route before and is in one now. So a summary without change means that
nothing has moved, and nothing moves without a summary that says so. -/
namespace ClusterPool
open Program

namespace Zone

/-- The routes are the same, and both tables hold the same producers since the same times. -/
structure Untouched (before after : Zone) : Prop where
  routes : after.rotation.names = before.rotation.names
  active : after.active = before.active
  retiring : after.retiring = before.retiring

section
variable {zone : Zone} {order : List Cluster}

theorem summaryOf_changed_eq_false_iff : (zone.summaryOf order).changed = false ↔
    zone.rotation.names = zone.servable order ∧ zone.ofOrigin .created order = [] ∧
      ∀ name, zone.active.contains name = true → name ∈ order.map (·.name) := by
  have removed : (zone.summaryOf order).removed = [] ↔
      ∀ name, zone.active.contains name = true → name ∈ order.map (·.name) := by
    rw [summaryOf, List.filter_eq_nil_iff]
    refine forall_congr' fun name => ?_
    rw [NameTable.mem_names_iff, decide_eq_true_eq, Classical.not_not]
  rw [← removed]
  simp [Summary.changed, summaryOf, and_assoc]

/-- Where the routes stay the same, no cluster comes back from retirement. -/
theorem Agreed.rescues_none (agreed : zone.Agreed)
    (same : zone.rotation.names = zone.servable order) : zone.ofOrigin .rescued order = [] := by
  refine List.eq_nil_iff_forall_not_mem.mpr fun name member => ?_
  obtain ⟨inside, origin⟩ := mem_ofOrigin.mp member
  have route : name ∈ zone.rotation.names := by
    rw [same]
    exact mem_servable.mpr ⟨inside, by simp [origin]⟩
  have active := (agreed.routes name).mp route
  rw [(origin_rescued_iff.mp origin).1] at active
  cases active

end

namespace Reconciled

variable {order : List Cluster} {before after : Zone} {summary : Summary}

/-- A summary without change leaves everything where it was. -/
theorem untouched (reconciled : Reconciled order before summary after) (agreed : before.Agreed)
    (apart : before.Apart) (unchanged : summary.changed = false) : before.Untouched after := by
  rw [reconciled.summary] at unchanged
  obtain ⟨same, _, stays⟩ := summaryOf_changed_eq_false_iff.mp unchanged
  have rescues := agreed.rescues_none same
  have routes : after.rotation.names = before.rotation.names := reconciled.routes.trans same.symm
  refine ⟨routes, NameTable.eq_of_find? fun name => ?_, NameTable.eq_of_find? fun name => ?_⟩
  · cases active : before.active.find? name with
    | some slot =>
      exact reconciled.kept name (stays name (NameTable.contains_of_find? active)) slot active
    | none =>
      refine NameTable.contains_eq_false_iff.mp (Bool.eq_false_iff.mpr fun serves => ?_)
      rw [reconciled.active, ← same, agreed.routes, NameTable.contains, active] at serves
      cases serves
  · rw [reconciled.retiring]
    split
    · rename_i inside
      -- A selected cluster that retires is active too, or it would have been rescued.
      cases retires : before.retiring.find? name with
      | none => rfl
      | some slot =>
        have rescued : name ∈ before.ofOrigin .rescued order := mem_ofOrigin.mpr ⟨inside,
          origin_rescued_iff.mpr ⟨NameTable.contains_eq_false_iff.mpr (apart.inactive retires),
            NameTable.contains_of_find? retires⟩⟩
        rw [rescues] at rescued
        cases rescued
    · rename_i outside
      have inactive : before.active.find? name = none :=
        NameTable.contains_eq_false_iff.mp (Bool.eq_false_iff.mpr (outside ∘ stays name))
      rw [inactive]
      rfl

/-- If nothing has moved, the summary is without change. -/
theorem unchanged (reconciled : Reconciled order before summary after) (agreed : before.Agreed)
    (untouched : before.Untouched after) : summary.changed = false := by
  have same : before.rotation.names = before.servable order :=
    untouched.routes.symm.trans reconciled.routes
  rw [reconciled.summary]
  refine summaryOf_changed_eq_false_iff.mpr ⟨same, ?_, fun name active => ?_⟩
  · refine List.eq_nil_iff_forall_not_mem.mpr fun name member => ?_
    obtain ⟨inside, origin⟩ := mem_ofOrigin.mp member
    have active := (reconciled.active name).mpr (mem_servable.mpr ⟨inside, by simp [origin]⟩)
    rw [untouched.active, (origin_created_iff.mp origin).1] at active
    cases active
  · rw [← agreed.routes, same] at active
    exact (mem_servable.mp active).1

end Reconciled
end Zone

namespace Course

/-- Wherever a course leads, a reconciliation that is given clusters answers a summary, and the summary
is without change if and only if nothing has moved. In particular, it is with change whenever a cluster
comes back from retirement. -/
theorem changed_eq_false_iff {legs : List Leg} {zone : Zone} (course : Course legs zone)
    {inventory : Inventory} (fetched : zone.catalog.fetch = .ok inventory) :
    ∃ summary after, Zone.reconcileClustersAlone.runAlone Zone.passUntil zone =
        (some (.ok summary), after) ∧
      (summary.changed = false ↔ zone.Untouched after) ∧
      (summary.rescued ≠ [] → summary.changed = true) := by
  have idle := course.sound.idle
  have apart := course.sound.apart
  have agreed := course.agreed
  obtain ⟨result, after, ran, rfl, realigned, _⟩ :=
    (Zone.reconcileClustersAlone_answers idle apart).and
      (Zone.reconcileClustersAlone_realigns idle apart)
  rw [Zone.Realigned] at realigned
  split at realigned
  · rename_i nothing
    have none : zone.selection.select inventory.clusters = [] := by
      rw [Zone.offered, fetched] at nothing
      exact Zone.selected_eq_nil_iff.mp nothing
    have answers : zone.reconciliation = .ok { pool := zone.name } := by
      rw [Zone.reconciliation, fetched, Except.map, if_pos none]
    rw [answers] at ran
    obtain ⟨_, _, _, _, rfl⟩ := realigned
    exact ⟨_, _, ran, iff_of_true rfl ⟨rfl, rfl, rfl⟩, fun rescued => absurd rfl rescued⟩
  · rename_i offers
    obtain ⟨summary, reconciled⟩ := realigned
    rw [Zone.reconciliation_of_offered offers, ← reconciled.summary] at ran
    refine ⟨summary, after, ran, ?_, fun rescued => ?_⟩
    · exact ⟨reconciled.untouched agreed apart, reconciled.unchanged agreed⟩
    · refine Bool.of_not_eq_false fun unchanged => rescued ?_
      rw [reconciled.summary] at unchanged ⊢
      exact agreed.rescues_none (Zone.summaryOf_changed_eq_false_iff.mp unchanged).1

/-- One of two clusters goes away, and is announced again. -/
def detour : List Leg × Zone :=
  let both : Inventory := { clusters := [{ name := "A" }, { name := "B" }] }
  let (legs, zone) := reloads blank [both, { clusters := [{ name := "B" }] }]
  (legs, zone.announce both)

private theorem detour_course : Course detour.1 detour.2 := by
  have away := of_reloads blank_built rfl
    [{ clusters := [{ name := "A" }, { name := "B" }] }, { clusters := [{ name := "B" }] }]
  exact away.outside (Zone.announce_outside _ away.sound.idle.readable)

/-- Its return is a change, although nothing is built and nothing retires. Where everybody is back,
another reconciliation finds nothing to change. -/
theorem changed_of_detour :
    (∃ summary after, Zone.reconcileClustersAlone.runAlone Zone.passUntil detour.2 =
        (some (.ok summary), after) ∧
      summary.created = [] ∧ summary.removed = [] ∧ summary.changed = true) ∧
    ∃ summary after, Zone.reconcileClustersAlone.runAlone Zone.passUntil absence.2 =
        (some (.ok summary), after) ∧ summary.changed = false ∧ after.active = absence.2.active := by
  constructor
  · obtain ⟨summary, after, ran, _, rescued⟩ := detour_course.changed_eq_false_iff rfl
    have answered : (Zone.reconcileClustersAlone.runAlone Zone.passUntil detour.2).1 =
        some (.ok (detour.2.summaryOf detour.2.offered)) := rfl
    rw [ran] at answered
    cases answered
    exact ⟨_, after, ran, rfl, rfl, rescued (by decide)⟩
  · obtain ⟨summary, after, ran, unchanged, _⟩ := absence_course.changed_eq_false_iff rfl
    have answered : (Zone.reconcileClustersAlone.runAlone Zone.passUntil absence.2).1 =
        some (.ok (absence.2.summaryOf absence.2.offered)) := rfl
    rw [ran] at answered
    cases answered
    exact ⟨_, after, ran, rfl, (unchanged.mp rfl).active⟩

end Course
end ClusterPool
