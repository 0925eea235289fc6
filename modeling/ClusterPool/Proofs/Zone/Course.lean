import ClusterPool.Proofs.Zone.Ending
import ClusterPool.Proofs.Zone.Reloading
import ClusterPool.Proofs.Zone.Sending
import ClusterPool.Script.Play

/-! The courses that a zone can take while one thing is done in it at a time: errands of its pool,
each to its end, and between them whatever happens outside of the pool. -/
namespace ClusterPool
open Program

/-- What can be asked of a pool. -/
inductive Errand
  | reload
  | reconcileClusters
  | reconcileTopics
  | reclaim
  | dispatch (batch : Option Batch)
  | close

namespace Errand

/-- The step of a script that the errand is. -/
def action : Errand → Action
  | reload => .reload
  | reconcileClusters => .reconcileClusters
  | reconcileTopics => .reconcileTopics
  | reclaim => .reclaim
  | dispatch batch => .dispatch batch
  | close => .close

def work (errand : Errand) : Program Zone Answer := errand.action.work

/-- What an errand comes to when nothing else goes on. -/
def Effect : Errand → Zone → Zone → Prop
  | reload, before, after => ∃ middle, before.Realigned middle ∧ middle.Idle ∧
      Zone.Informed middle.announced middle after
  | reconcileClusters, before, after => before.Realigned after
  | reconcileTopics, before, after => Zone.Informed before.announced before after
  | reclaim, before, after => before.Reclaimed after
  | dispatch _, before, after => before.Steady after
  | close, before, after => before.Closed after

end Errand

namespace Zone

/-- A zone that was just built has its plan and a catalog, and nothing has happened in it. -/
theorem build_eq {plan : Plan} {zone : Zone} (built : build plan = .ok zone) : ∃ catalog,
    zone = {
      name := plan.name, node := plan.node, settings := plan.settings
      selection := plan.selection, catalog, clock := plan.clock } := by
  unfold build at built
  split at built
  · cases built
  · split at built
    · cases built
    · split at built
      · cases built
        exact ⟨_, rfl⟩
      · cases built

/-- What happens between two errands: the catalog announces something else, the clock goes on, the
failures and delays laid on the fleet change, and producers begin or cease to fail. Nobody starts,
stops, or publishes on a producer. -/
structure Outside (before after : Zone) : Prop where
  rest : ∃ catalog clock fleet, after = { before with catalog, clock, fleet }
  readable : after.clock.broken = false
  producers : ∃ failsSends failsStop : ProducerId → Bool, ∀ id, after.fleet.find? id =
    (before.fleet.find? id).map fun producer =>
      { producer with failsSends := failsSends id, failsStop := failsStop id }

end Zone

/-- An errand in a course, with the zone before and after it. -/
structure Leg where
  errand : Errand
  before : Zone
  after : Zone

/-- A zone that was built and has then gone through these legs, the latest first, with whatever
happened outside of the pool before, between and after them. -/
inductive Course : List Leg → Zone → Prop
  | begin {plan : Zone.Plan} {zone : Zone} (built : Zone.build plan = .ok zone)
      (readable : zone.clock.broken = false) : Course [] zone
  | outside {legs : List Leg} {before after : Zone} (course : Course legs before)
      (change : before.Outside after) : Course legs after
  | errand {legs : List Leg} {before after : Zone} {answer : Answer} (errand : Errand)
      (course : Course legs before)
      (ran : errand.work.runAlone Zone.passUntil before = (some answer, after)) :
      Course (⟨errand, before, after⟩ :: legs) after

namespace Errand

/-- Every errand comes to its end in a zone where nothing else goes on. -/
theorem attains (errand : Errand) {zone : Zone} (idle : zone.Idle) (apart : zone.Apart) :
    errand.work.Attains Zone.passUntil (fun _ after => errand.Effect zone after ∧ after.Idle)
      zone := by
  cases errand with
  | reload => exact attains_bind.mpr ((Zone.reload_attains idle apart).mono fun _ _ done =>
      attains_done.mpr done)
  | reconcileClusters =>
    exact attains_bind.mpr ((Zone.reconcileClustersAlone_realigns idle apart).mono fun _ _ done =>
      attains_done.mpr done)
  | reconcileTopics =>
    exact attains_bind.mpr ((Zone.reconcileTopicsAlone_informs idle).mono fun _ _ done =>
      attains_done.mpr done)
  | reclaim => exact attains_bind.mpr ((Zone.reclaim_attains idle).mono fun _ _ done =>
      attains_done.mpr done.2)
  | dispatch batch =>
    refine attains_bind.mpr (attains_perform.mpr (attains_bind.mpr
      ((Zone.dispatch_steady _ _).mono fun _ after steady => attains_done.mpr ?_)))
    have whole : zone.Steady after := by
      refine Zone.Steady.trans ?_ steady
      cases batch <;> exact ⟨⟨_, _, _, _, _, rfl⟩, .refl zone.fleet⟩
    refine ⟨whole, ?_⟩
    obtain ⟨_, _, _, _, _, rfl⟩ := whole.rest
    exact ⟨idle.reload, idle.book, idle.readable⟩
  | close => exact attains_bind.mpr ((Zone.close_attains idle).mono fun _ _ done =>
      attains_done.mpr done)

end Errand

namespace Zone

/-- The catalog announces something else. -/
def announce (inventory : Inventory) (zone : Zone) : Zone :=
  { zone with catalog := zone.catalog.revise fun _ => inventory }

/-- What happens to the catalog, to the clock and to the failures laid on the fleet happens outside
of the pool. -/
theorem Outside.of_producers {before after : Zone}
    (rest : ∃ catalog clock fleet, after = { before with catalog, clock, fleet })
    (readable : after.clock.broken = false)
    (same : after.fleet.producers = before.fleet.producers) : before.Outside after where
  rest := rest
  readable := readable
  producers := by
    refine ⟨fun id => ((before.fleet.find? id).map (·.failsSends)).getD false,
      fun id => ((before.fleet.find? id).map (·.failsStop)).getD false, fun id => ?_⟩
    rw [Fleet.find?, same, ← Fleet.find?]
    cases found : before.fleet.find? id <;> simp [found]

theorem announce_outside (inventory : Inventory) {zone : Zone}
    (readable : zone.clock.broken = false) : zone.Outside (zone.announce inventory) :=
  .of_producers ⟨_, _, _, rfl⟩ readable rfl

/-- One producer begins or ceases to fail. -/
def switch (id : ProducerId) (failsSends failsStop : Bool) (zone : Zone) : Zone :=
  { zone with fleet := zone.fleet.update id fun producer =>
      { producer with failsSends, failsStop } }

theorem switch_outside (id : ProducerId) (failsSends failsStop : Bool) {zone : Zone}
    (readable : zone.clock.broken = false) :
    zone.Outside (zone.switch id failsSends failsStop) where
  rest := ⟨_, _, _, rfl⟩
  readable := readable
  producers := by
    refine ⟨fun other => if id = other then failsSends else
        ((zone.fleet.find? other).map (·.failsSends)).getD false,
      fun other => if id = other then failsStop else
        ((zone.fleet.find? other).map (·.failsStop)).getD false, fun other => ?_⟩
    rw [switch, Fleet.find?_update]
    by_cases same : id = other
    · simp [same]
    · cases found : zone.fleet.find? other <;> simp [same, found]

end Zone

namespace Course

/-- The legs of a zone that reloads after each of these announcements, and where they lead. -/
def reloads (zone : Zone) (inventories : List Inventory) : List Leg × Zone :=
  inventories.foldl (fun (legs, zone) inventory =>
    let before := zone.announce inventory
    let after := (Errand.reload.work.runAlone Zone.passUntil before).2
    (⟨.reload, before, after⟩ :: legs, after)) ([], zone)

/-- The legs of a zone in which these errands are done, each after an announcement and at a reading
of the clock, and where they lead. -/
def errands (zone : Zone) (plans : List (Inventory × Stamp × Errand)) : List Leg × Zone :=
  plans.foldl (fun (legs, zone) (inventory, reading, asked) =>
    let before := { zone.announce inventory with clock := zone.clock.set reading }
    let after := (asked.work.runAlone Zone.passUntil before).2
    (⟨asked, before, after⟩ :: legs, after)) ([], zone)

/-- A zone that knows no clusters yet. -/
def blank : Zone where
  name := "default"
  node := {}
  settings := {}
  selection := .all
  catalog := .inMemory [] .empty
  clock := {}

theorem blank_built : Zone.build { catalog := some (.inMemory [] .empty) } = .ok blank := rfl

/-- One of two clusters is away while a topic is added, and comes back. -/
def absence : List Leg × Zone :=
  reloads blank [
    { clusters := [{ name := "A" }, { name := "B" }], topics := .ofList ["t"] },
    { clusters := [{ name := "B" }], topics := .ofList ["t"] },
    { clusters := [{ name := "B" }], topics := .ofList ["t", "u"] },
    { clusters := [{ name := "A" }, { name := "B" }], topics := .ofList ["t", "u"] }]

end Course
end ClusterPool
