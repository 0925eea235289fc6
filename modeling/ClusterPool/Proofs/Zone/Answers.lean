import ClusterPool.Proofs.Zone.Continuity

/-! What reconciliations answer when nothing else goes on in the zone. The summary can be told
before they begin, from the tables and from what the catalog announces. -/
namespace ClusterPool
open Program

namespace Zone

/-- What a reconciliation of the clusters answers. An empty selection is answered by an empty
summary, and a catalog that fails by its fault. -/
def reconciliation (zone : Zone) : Except Fault Summary :=
  zone.catalog.fetch.map fun inventory =>
    if zone.selection.select inventory.clusters = [] then { pool := zone.name }
    else zone.summaryOf (zone.selected inventory.clusters)

/-- Clusters that are offered are answered by a summary of them. -/
theorem reconciliation_of_offered {zone : Zone} (offers : zone.offered ≠ []) :
    zone.reconciliation = .ok (zone.summaryOf zone.offered) := by
  cases fetched : zone.catalog.fetch with
  | error fault => exact absurd (by rw [offered, fetched]) offers
  | ok inventory =>
    have selection : zone.offered = zone.selected inventory.clusters := by rw [offered, fetched]
    have selects : zone.selection.select inventory.clusters ≠ [] := fun none =>
      offers (selection.trans (selected_eq_nil_iff.mpr none))
    rw [reconciliation, fetched, selection, Except.map, if_neg selects]

/-- Where nothing is offered, the summary is empty if there is one. -/
theorem reconciliation_of_nothing {zone : Zone} (nothing : zone.offered = []) {summary : Summary}
    (answers : zone.reconciliation = .ok summary) : summary = { pool := zone.name } := by
  cases fetched : zone.catalog.fetch with
  | error fault =>
    rw [reconciliation, fetched] at answers
    cases answers
  | ok inventory =>
    have none : zone.selection.select inventory.clusters = [] := by
      rw [offered, fetched] at nothing
      exact selected_eq_nil_iff.mp nothing
    rw [reconciliation, fetched, Except.map, if_pos none] at answers
    exact (Except.ok.inj answers).symm

theorem reconcileClusters_answers (zone : Zone) (apart : zone.Apart)
    (free : zone.bookkeeping.isFree = true) (readable : zone.clock.broken = false) :
    reconcileClusters.Attains passUntil (fun result after =>
      result = zone.reconciliation ∧ after.bookkeeping.isFree = true) zone := by
  cases fetched : zone.catalog.fetch with
  | error fault =>
    refine attains_bind.mpr (attains_fetch.mpr ?_)
    rw [reconciliation, fetched]
    exact attains_done.mpr ⟨rfl, free⟩
  | ok inventory =>
    apply (reconcileClusters_attains zone fetched apart free readable).mono
    rintro result after ⟨summary, rfl, _, free, outcome⟩
    refine ⟨?_, free⟩
    rw [reconciliation, fetched, Except.map]
    split at outcome
    · rename_i none
      rw [if_pos none, outcome.1]
    · rename_i some
      rw [if_neg some, outcome.summary]

theorem reconcileClustersAlone_answers {zone : Zone} (idle : zone.Idle) (apart : zone.Apart) :
    reconcileClustersAlone.Attains passUntil (fun result _ => result = zone.reconciliation) zone :=
  (Gate.attains_inside reloadGate_lawful idle.reload).mpr
    ((reconcileClusters_answers (reloadGate.update Turnstile.enter zone) apart idle.book
      idle.readable).mono fun _ _ answered => answered.1)

/-- A reload answers what its reconciliation of the clusters does, unless that is a fault. -/
theorem reload_answers {zone : Zone} (idle : zone.Idle) (apart : zone.Apart) :
    reload.Attains passUntil (fun answer _ => answer = zone.reconciliation.toOption) zone := by
  have entered := reconcileClusters_answers (reloadGate.update Turnstile.enter zone) apart
    idle.book idle.readable
  refine (Gate.attains_inside reloadGate_lawful idle.reload).mpr
    (attains_bind.mpr (entered.mono ?_))
  rintro outcome middle ⟨answered, free⟩
  have outcome_eq : outcome = zone.reconciliation := answered
  have counted : ∀ zone : Zone, (do
      .modify (count .reloads)
      return outcome.toOption : Program Zone (Option Summary)).Attains passUntil
        (fun answer _ => answer = outcome.toOption) zone := fun zone =>
    attains_bind.mpr (attains_modify.mpr (attains_done.mpr rfl))
  have second : ∀ middle : Zone, middle.bookkeeping.isFree = true →
      (reloadTopics outcome).Attains passUntil (fun answer _ => answer = outcome.toOption)
        middle := by
    intro middle free
    refine attains_bind.mpr ((reconcileTopics_informs middle free).mono ?_)
    rintro informed after _
    cases informed with
    | ok _ => exact counted after
    | error fault => exact attains_bind.mpr (attains_modify.mpr (counted _))
  rw [← outcome_eq]
  cases outcome with
  | ok summary => exact second middle free
  | error fault => exact attains_bind.mpr (attains_modify.mpr (second _ free))

end Zone

namespace Errand

/-- The summary that an errand answers which reconciles the clusters, as far as clusters are
offered. -/
theorem realigns_answers {errand : Errand} (realigns : errand.realigns = true) {zone : Zone}
    (idle : zone.Idle) (apart : zone.Apart) (offers : zone.offered ≠ []) :
    errand.work.Attains Zone.passUntil
      (fun answer _ => answer = .summary (zone.summaryOf zone.offered)) zone := by
  have answers := Zone.reconciliation_of_offered offers
  cases errand with
  | reload =>
    refine attains_bind.mpr ((Zone.reload_answers idle apart).mono ?_)
    rintro _ after rfl
    rw [answers]
    exact attains_done.mpr rfl
  | reconcileClusters =>
    refine attains_bind.mpr ((Zone.reconcileClustersAlone_answers idle apart).mono ?_)
    rintro _ after rfl
    rw [answers]
    exact attains_done.mpr rfl
  | reconcileTopics | reclaim | dispatch | close => cases realigns

end Errand
end ClusterPool
