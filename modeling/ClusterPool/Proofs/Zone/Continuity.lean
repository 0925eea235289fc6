import ClusterPool.Proofs.Zone.Agreement

/-! When a zone that has routes loses all of them. A closing always does it. A reconciliation does
it exactly if the catalog offers clusters and not one of them can be served: the zone goes on with
its old clusters when nothing is offered, but not when everything that is offered fails. -/
namespace ClusterPool
open Program

namespace Zone

/-- Clusters are offered, and the zone can serve none of them: it holds no producer of any, and
failures laid on the fleet keep it from getting one. -/
def Stranded (zone : Zone) : Prop :=
  zone.offered ≠ [] ∧ ∀ cluster ∈ zone.offered, zone.origin cluster.name = .failed

theorem servable_eq_nil_iff {zone : Zone} {order : List Cluster} :
    zone.servable order = [] ↔ ∀ cluster ∈ order, zone.origin cluster.name = .failed := by
  simp [servable, List.filter_eq_nil_iff]

/-- A reconciliation of the clusters leaves a zone with routes without any exactly if none of the
clusters that are offered can be served. -/
theorem Realigned.empties_iff {before after : Zone} (realigned : before.Realigned after)
    (serving : before.rotation.names ≠ []) : after.rotation.names = [] ↔ before.Stranded := by
  unfold Realigned at realigned
  split at realigned
  · rename_i none
    obtain ⟨_, _, _, _, rfl⟩ := realigned
    simp [Stranded, serving, none]
  · rename_i some
    obtain ⟨summary, reconciled⟩ := realigned
    rw [reconciled.routes, servable_eq_nil_iff, Stranded]
    exact (and_iff_right some).symm

end Zone

namespace Errand

/-- Whether the errand reconciles the clusters. -/
def realigns : Errand → Bool
  | reload | reconcileClusters => true
  | _ => false

/-- Which errands leave a zone with routes without any. -/
theorem empties_iff {errand : Errand} {before after : Zone} (effect : errand.Effect before after)
    (serving : before.rotation.names ≠ []) : after.rotation.names = [] ↔
      errand = .close ∨ (errand.realigns = true ∧ before.Stranded) := by
  cases errand with
  | reload =>
    obtain ⟨middle, realigned, _, ⟨_, _, _, _, _, _, rfl⟩, _, _⟩ := effect
    simpa [realigns] using realigned.empties_iff serving
  | reconcileClusters => simpa [realigns] using effect.empties_iff serving
  | reconcileTopics =>
    obtain ⟨_, _, _, _, _, _, rfl⟩ := effect.rest
    exact iff_of_false serving (by simp [realigns])
  | reclaim =>
    obtain ⟨_, _, _, _, _, _, rfl⟩ := effect.rest
    exact iff_of_false serving (by simp [realigns])
  | dispatch batch =>
    obtain ⟨_, _, _, _, _, rfl⟩ := effect.rest
    exact iff_of_false serving (by simp [realigns])
  | close => exact iff_of_true effect.routes (.inl rfl)

end Errand

namespace Course

/-- Wherever a course leads, a zone that has routes keeps some through every errand but two: a
closing, and a reconciliation of the clusters when clusters are offered of which none can be served.
After these two, and after no other errand, a dispatch fails for want of a route. -/
theorem routes_eq_nil_iff_stranded {legs : List Leg} {zone : Zone} (course : Course legs zone)
    (serving : zone.rotation.names ≠ []) (errand : Errand) :
    ∃ answer after, errand.work.runAlone Zone.passUntil zone = (some answer, after) ∧
      (after.rotation.names = [] ↔
        errand = .close ∨ (errand.realigns = true ∧ zone.Stranded)) ∧
      ∀ batch, ∃ result last,
        (Zone.dispatch batch).runAlone Zone.passUntil after = (some result, last) ∧
        ((∃ pool, result = .error (.noRoute pool)) ↔
          errand = .close ∨ (errand.realigns = true ∧ zone.Stranded)) := by
  obtain ⟨answer, after, ran⟩ := course.completes errand
  have next := course.errand errand ran
  have empties := Errand.empties_iff (next.effect List.mem_cons_self).2 serving
  refine ⟨answer, after, ran, empties, fun batch => ?_⟩
  obtain ⟨result, last, dispatched, rfl, _, _⟩ :=
    Zone.dispatch_attains next.agreed next.sound batch
  refine ⟨_, last, dispatched, ?_⟩
  rw [← empties, ← Rotation.next?_eq_none_iff, Zone.answerOf_noRoute_iff next.agreed next.sound]

/-- The topics that changed and the cluster that came back do not cost the zone its routes: nor does
one more reload. -/
theorem routes_eq_nil_iff_stranded_of_absence : absence.2.rotation.names ≠ [] ∧ ∃ answer after,
    Errand.reload.work.runAlone Zone.passUntil absence.2 = (some answer, after) ∧
      after.rotation.names ≠ [] := by
  have serving : absence.2.rotation.names ≠ [] := by decide
  obtain ⟨answer, after, ran, empties, _⟩ := routes_eq_nil_iff_stranded absence_course serving .reload
  refine ⟨serving, answer, after, ran, fun none => ?_⟩
  rcases empties.mp none with closing | ⟨_, _, failed⟩
  · cases closing
  · exact absurd (failed { name := "A" } (by decide)) (by decide)

/-- One cluster is served. Another one is announced in its place, and refuses to start. -/
def outage : List Leg × Zone :=
  let (legs, zone) := reloads blank [{ clusters := [{ name := "A" }], topics := .empty }]
  (legs, { zone with
    fleet := zone.fleet.refuseStart "B"
    catalog := zone.catalog.revise fun _ => { clusters := [{ name := "B" }], topics := .empty } })

private theorem outage_course : Course outage.1 outage.2 := by
  have serving := of_reloads blank_built rfl [{ clusters := [{ name := "A" }], topics := .empty }]
  exact serving.outside (.of_producers ⟨_, _, _, rfl⟩ rfl rfl)

/-- After that the zone has no routes left, although it was not closed: it is not so that routes
survive every other errand. -/
theorem outage_unserved : ¬∀ legs zone, Course legs zone → zone.rotation.names ≠ [] →
    ∀ (errand : Errand) answer after, errand ≠ .close →
      errand.work.runAlone Zone.passUntil zone = (some answer, after) →
        after.rotation.names ≠ [] := by
  intro always
  obtain ⟨answer, after, ran⟩ := outage_course.completes .reload
  have serves := always _ _ outage_course (by decide) .reload answer after (by simp) ran
  have none : (Errand.reload.work.runAlone Zone.passUntil outage.2).2.rotation.names = [] := rfl
  rw [ran] at none
  exact serves none

end Course
end ClusterPool
