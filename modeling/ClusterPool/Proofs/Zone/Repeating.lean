import ClusterPool.Proofs.Zone.Changing
import ClusterPool.Proofs.Zone.Rescue

/-! What a reconciliation of the clusters leaves to do for another one, as long as the catalog
announces the same clusters and the same ones fail: nothing. Whatever was rescued or built is kept,
whatever failed fails again, and whatever retired has gone on retiring or was reclaimed. -/
namespace ClusterPool
open Program

namespace Zone

theorem servable_eq (zone : Zone) (order : List Cluster) :
    zone.servable order = (order.map (·.name)).filter fun name => zone.origin name ≠ .failed := by
  rw [servable, List.filter_map]
  rfl

theorem ofOrigin_eq (zone : Zone) (origin : Origin) (order : List Cluster) :
    zone.ofOrigin origin order =
      (order.map (·.name)).filter fun name => zone.origin name = origin := by
  rw [ofOrigin, List.filter_map]
  rfl

/-- The zone is in line with `order` as far as the clusters that are refused allow it: the others
are its routes, nothing else is active, and no cluster of `order` retires. -/
structure Aligned (order : List Cluster) (refused : String → Bool) (zone : Zone) : Prop where
  routes : zone.rotation.names =
    (order.map (·.name)).filter fun name => zone.active.contains name
  active : ∀ name, zone.active.contains name = true → name ∈ order.map (·.name)
  retiring : ∀ name ∈ order.map (·.name), zone.retiring.contains name = false
  failing : ∀ name ∈ order.map (·.name), zone.active.contains name = false → refused name = true

namespace Reconciled

variable {order : List Cluster} {before after : Zone} {summary : Summary}
  (reconciled : Reconciled order before summary after)

include reconciled

/-- A cluster of `order` is active afterwards unless it failed. -/
private theorem serves {name : String} (inside : name ∈ order.map (·.name)) :
    after.active.contains name = decide (before.origin name ≠ .failed) := by
  rw [Bool.eq_iff_iff, reconciled.active, mem_servable, decide_eq_true_eq]
  exact and_iff_right inside

/-- A reconciliation brings a zone in line. -/
theorem aligned : Aligned order before.fleet.refuses after where
  routes := by
    rw [reconciled.routes, servable_eq]
    exact List.filter_congr fun name inside => (reconciled.serves inside).symm
  active name active := (mem_servable.mp ((reconciled.active name).mp active)).1
  retiring name inside := by
    rw [NameTable.contains_eq_false_iff, reconciled.retiring, if_pos inside]
  failing name inside inactive := by
    rw [reconciled.serves inside, decide_eq_false_iff_not, Classical.not_not] at inactive
    exact (origin_failed_iff.mp inactive).2.2

theorem selection : after.name = before.name ∧ after.selection = before.selection := by
  obtain ⟨_, _, _, _, _, _, _, _, _, _, rfl⟩ := reconciled.rest
  exact ⟨rfl, rfl⟩

/-- The clusters that are said to have failed are those of `order` that are not active. -/
theorem failed :
    summary.failed = (order.map (·.name)).filter fun name => !after.active.contains name := by
  rw [reconciled.summary]
  refine (ofOrigin_eq ..).trans (List.filter_congr fun name inside => ?_)
  simp [reconciled.serves inside]

end Reconciled

namespace Aligned

variable {order : List Cluster} {zone : Zone}
  (aligned : Aligned order zone.fleet.refuses zone)

include aligned

/-- Each cluster of `order` is kept, or fails. -/
private theorem origin {name : String} (inside : name ∈ order.map (·.name)) :
    zone.origin name = if zone.active.contains name then .kept else .failed := by
  split
  · rename_i active
    exact origin_kept_iff.mpr active
  · rename_i inactive
    rw [Bool.not_eq_true] at inactive
    exact origin_failed_iff.mpr
      ⟨inactive, aligned.retiring name inside, aligned.failing name inside inactive⟩

/-- What is asked of the origins of the clusters can be asked of the active table. -/
private theorem sorted (test : Origin → Bool) (wanted : Bool → Bool)
    (kept : test .kept = wanted true) (failed : test .failed = wanted false) :
    ((order.map (·.name)).filter fun name => test (zone.origin name)) =
      (order.map (·.name)).filter fun name => wanted (zone.active.contains name) := by
  refine List.filter_congr fun name inside => ?_
  rw [aligned.origin inside]
  cases zone.active.contains name
  · exact failed
  · exact kept

/-- Whoever is in line, and refuses the clusters that it was brought in line without, has nothing to
do. -/
theorem summaryOf : zone.summaryOf order = {
    pool := zone.name, routes := zone.rotation.names, unchanged := zone.rotation.names
    failed := (order.map (·.name)).filter fun name => !zone.active.contains name } := by
  have kept : zone.ofOrigin .kept order = zone.rotation.names :=
    (ofOrigin_eq ..).trans ((aligned.sorted (· = .kept) id rfl rfl).trans aligned.routes.symm)
  have serves : zone.servable order = zone.rotation.names :=
    (servable_eq ..).trans ((aligned.sorted (· ≠ .failed) id rfl rfl).trans aligned.routes.symm)
  have failed : zone.ofOrigin .failed order =
      (order.map (·.name)).filter fun name => !zone.active.contains name :=
    (ofOrigin_eq ..).trans (aligned.sorted (· = .failed) not rfl rfl)
  have created : zone.ofOrigin .created order = [] :=
    (ofOrigin_eq ..).trans ((aligned.sorted (· = .created) (fun _ => false) rfl rfl).trans
      (by simp))
  have rescued : zone.ofOrigin .rescued order = [] :=
    (ofOrigin_eq ..).trans ((aligned.sorted (· = .rescued) (fun _ => false) rfl rfl).trans
      (by simp))
  have stays : (zone.active.names.filter fun name => name ∉ order.map (·.name)) = [] := by
    rw [List.filter_eq_nil_iff]
    intro name member
    simpa using aligned.active name (NameTable.mem_names_iff.mp member)
  rw [Zone.summaryOf, kept, serves, failed, created, rescued, stays]
  simp

end Aligned

/-- The routes and the active clusters are the same, and none has gone into retirement. -/
structure Lingers (before after : Zone) : Prop where
  name : after.name = before.name
  selection : after.selection = before.selection
  routes : after.rotation.names = before.rotation.names
  active : after.active = before.active
  retiring : ∀ name, before.retiring.contains name = false → after.retiring.contains name = false

namespace Lingers

variable {before after : Zone}

theorem refl (zone : Zone) : Lingers zone zone := ⟨rfl, rfl, rfl, rfl, fun _ away => away⟩

theorem trans {first second third : Zone} (early : Lingers first second)
    (late : Lingers second third) : Lingers first third where
  name := late.name.trans early.name
  selection := late.selection.trans early.selection
  routes := late.routes.trans early.routes
  active := late.active.trans early.active
  retiring name away := late.retiring name (early.retiring name away)

theorem outside (change : before.Outside after) : Lingers before after := by
  obtain ⟨⟨_, _, _, rfl⟩, _, _⟩ := change
  exact ⟨rfl, rfl, rfl, rfl, fun _ away => away⟩

/-- Only a reconciliation of the clusters and a closing do more. -/
theorem errand {errand : Errand} (effect : errand.Effect before after)
    (calm : errand.realigns = false ∧ errand ≠ .close) : Lingers before after := by
  cases errand with
  | reload | reconcileClusters => exact nomatch calm.1
  | reconcileTopics =>
    obtain ⟨_, _, _, _, _, _, rfl⟩ := effect.rest
    exact ⟨rfl, rfl, rfl, rfl, fun _ away => away⟩
  | reclaim =>
    have retiring : ∀ name, before.retiring.contains name = false →
        after.retiring.contains name = false := by
      intro name away
      rw [NameTable.contains_eq_false_iff] at away ⊢
      rw [effect.retiring, NameTable.find?_filter, away]
      rfl
    obtain ⟨_, _, _, _, _, _, rfl⟩ := effect.rest
    exact ⟨rfl, rfl, rfl, rfl, retiring⟩
  | dispatch batch =>
    obtain ⟨_, _, _, _, _, rfl⟩ := effect.rest
    exact ⟨rfl, rfl, rfl, rfl, fun _ away => away⟩
  | close => exact absurd rfl calm.2

end Lingers

theorem Aligned.linger {order : List Cluster} {refused : String → Bool} {before after : Zone}
    (aligned : Aligned order refused before) (lingers : before.Lingers after) :
    Aligned order refused after where
  routes := by
    rw [lingers.routes, lingers.active]
    exact aligned.routes
  active := by
    rw [lingers.active]
    exact aligned.active
  retiring name inside := lingers.retiring name (aligned.retiring name inside)
  failing := by
    rw [lingers.active]
    exact aligned.failing

/-- Two fetches of the same clusters offer the same. -/
theorem offered_congr {before after : Zone} {former latter : Inventory}
    (fetched : before.catalog.fetch = .ok former) (again : after.catalog.fetch = .ok latter)
    (selection : after.selection = before.selection) (same : latter.clusters = former.clusters) :
    after.offered = before.offered := by
  have first : before.offered = before.selected former.clusters := by rw [offered, fetched]
  have second : after.offered = after.selected latter.clusters := by rw [offered, again]
  rw [first, second, selected, selected, selection, same]

/-- A catalog that does not fail is answered by a summary. -/
theorem reconciliation_ok {zone : Zone} {inventory : Inventory}
    (fetched : zone.catalog.fetch = .ok inventory) :
    ∃ summary, zone.reconciliation = .ok summary := by
  rw [reconciliation, fetched]
  exact ⟨_, rfl⟩

/-- A reconciliation renames nobody, and selects like before. -/
theorem Realigned.selection {before after : Zone} (realigned : before.Realigned after) :
    after.name = before.name ∧ after.selection = before.selection := by
  unfold Realigned at realigned
  split at realigned
  · obtain ⟨_, _, _, _, rfl⟩ := realigned
    exact ⟨rfl, rfl⟩
  · obtain ⟨summary, reconciled⟩ := realigned
    exact reconciled.selection

/-- Whoever is offered clusters reconciles them, and answers how that went. -/
theorem Realigned.reconciled {before after : Zone} {summary : Summary}
    (realigned : before.Realigned after) (offers : before.offered ≠ [])
    (answers : before.reconciliation = .ok summary) :
    Reconciled before.offered before summary after := by
  rw [Realigned, if_neg offers] at realigned
  obtain ⟨told, reconciled⟩ := realigned
  obtain rfl : summary = told := (Except.ok.inj (answers.symm.trans
    (reconciliation_of_offered offers))).trans reconciled.summary.symm
  exact reconciled

/-- Where a reconciliation has brought a zone in line, the next one keeps all routes, and fails with
the same clusters. -/
theorem Reconciled.repeats {order : List Cluster} {before after later final : Zone}
    {summary repeated : Summary} (reconciled : Reconciled order before summary after)
    (lingers : after.Lingers later) (again : Reconciled order later repeated final)
    (failures : ∀ name, later.fleet.refuses name = before.fleet.refuses name) :
    summary.routes = later.rotation.names ∧
      repeated = { summary with
        created := [], rescued := [], removed := [], unchanged := summary.routes
        routingChanged := false } := by
  have aligned := reconciled.aligned.linger lingers
  rw [← funext failures] at aligned
  have routes : summary.routes = later.rotation.names := by
    rw [lingers.routes, reconciled.routes, reconciled.summary]
    rfl
  have pool : summary.pool = later.name := by
    rw [lingers.name, reconciled.selection.1, reconciled.summary]
    rfl
  refine ⟨routes, ?_⟩
  rw [again.summary, aligned.summaryOf, routes, pool, reconciled.failed, lingers.active]

end Zone

namespace Errand

/-- A reconciliation of the clusters alone answers what is known beforehand, and realigns the
zone. -/
theorem reconcileClusters_attains {zone : Zone} (idle : zone.Idle) (apart : zone.Apart) :
    reconcileClusters.work.Attains Zone.passUntil (fun answer after =>
      answer = .ofExcept .summary zone.reconciliation ∧ zone.Realigned after) zone := by
  refine attains_bind.mpr (((Zone.reconcileClustersAlone_answers idle apart).and
    (Zone.reconcileClustersAlone_realigns idle apart)).mono ?_)
  rintro _ after ⟨rfl, realigned, _⟩
  exact attains_done.mpr ⟨rfl, realigned⟩

end Errand

namespace Course

/-- The routes and the active clusters stay until the pool is reconciled or closed. -/
theorem lingers {between earlier : List Leg} {leg : Leg} {zone : Zone}
    (course : Course (between ++ leg :: earlier) zone)
    (calm : ∀ leg ∈ between, leg.errand.realigns = false ∧ leg.errand ≠ .close) :
    leg.after.Lingers zone :=
  course.carries (leg.after.Lingers ·) (.refl leg.after)
    (fun _ _ change lingers => lingers.trans (.outside change))
    fun next member _ effect lingers => lingers.trans (.errand effect (calm next member))

/-- A reconciliation of the clusters that was given some has left nothing to do for another one, as
long as the pool is neither reconciled nor closed between the two, and the second is given the same
clusters and the same ones fail. The second touches neither the routes nor the tables, nor any
producer that there is; whatever it builds is not active. It answers that all routes of the first
are unchanged and that the same clusters have failed, and tells of no change. -/
theorem repeated_reconcile_untouched {between earlier : List Leg} {start after later : Zone}
    {announced again : Inventory}
    (course : Course (between ++ ⟨.reconcileClusters, start, after⟩ :: earlier) later)
    (calm : ∀ leg ∈ between, leg.errand.realigns = false ∧ leg.errand ≠ .close)
    (fetched : start.catalog.fetch = .ok announced) (refetched : later.catalog.fetch = .ok again)
    (same : again.clusters = announced.clusters)
    (failures : ∀ name, later.fleet.refuses name = start.fleet.refuses name) :
    ∃ summary repeated final,
      Errand.reconcileClusters.work.runAlone Zone.passUntil start =
        (some (.summary summary), after) ∧
      Errand.reconcileClusters.work.runAlone Zone.passUntil later =
        (some (.summary repeated), final) ∧
      later.Untouched final ∧
      (∀ id producer, later.fleet.find? id = some producer →
        final.fleet.find? id = some producer) ∧
      (∀ name slot, final.active.find? name = some slot →
        slot.producer < later.fleet.producers.length) ∧
      repeated = { summary with
        created := [], rescued := [], removed := [], unchanged := summary.routes
        routingChanged := false } ∧
      repeated.changed = false ∧
      (start.offered ≠ [] → summary.routes = final.rotation.names) := by
  obtain ⟨_, whole⟩ := course.upTo
  obtain ⟨past, answer, ran⟩ := whole.back
  obtain ⟨rfl, realigned⟩ :=
    (Errand.reconcileClusters_attains past.sound.idle past.sound.apart).of_ran ran
  have lingers : after.Lingers later := course.lingers calm
  obtain ⟨named, selects⟩ := realigned.selection
  have offers : later.offered = start.offered :=
    Zone.offered_congr fetched refetched (lingers.selection.trans selects) same
  obtain ⟨_, final, reran, rfl, still⟩ :=
    Errand.reconcileClusters_attains course.sound.idle course.sound.apart
  obtain ⟨summary, answers⟩ := Zone.reconciliation_ok fetched
  obtain ⟨repeated, repeats⟩ := Zone.reconciliation_ok refetched
  rw [answers] at ran
  rw [repeats] at reran
  refine ⟨summary, repeated, final, ran, reran, ?_⟩
  -- Whatever the second one does, it leaves the active table alone.
  suffices held : later.Untouched final ∧
      (∀ id producer, later.fleet.find? id = some producer →
        final.fleet.find? id = some producer) ∧
      repeated = { summary with
        created := [], rescued := [], removed := [], unchanged := summary.routes
        routingChanged := false } ∧
      (start.offered ≠ [] → summary.routes = final.rotation.names) by
    obtain ⟨untouched, kept, told, routes⟩ := held
    refine ⟨untouched, kept, fun name slot active => ?_, told, by rw [told]; rfl, routes⟩
    rw [untouched.active] at active
    obtain ⟨producer, found, _⟩ := course.sound.backed name slot (.inl active)
    exact (List.getElem?_eq_some_iff.mp found).1
  by_cases nothing : start.offered = []
  · rw [Zone.Realigned, if_pos (offers.trans nothing)] at still
    obtain rfl := Zone.reconciliation_of_nothing nothing answers
    obtain rfl := Zone.reconciliation_of_nothing (offers.trans nothing) repeats
    obtain ⟨_, _, _, _, rfl⟩ := still
    refine ⟨⟨rfl, rfl, rfl⟩, fun _ _ found => found, ?_, fun offers => absurd nothing offers⟩
    rw [lingers.name, named]
  · have reconciled := realigned.reconciled nothing answers
    have again := still.reconciled (offers ▸ nothing) repeats
    rw [offers] at again
    obtain ⟨routes, told⟩ := reconciled.repeats lingers again failures
    have untouched := again.untouched course.agreed course.sound.apart (by rw [told]; rfl)
    exact ⟨untouched, fun _ _ found => again.find?_known found, told,
      fun _ => routes.trans untouched.routes.symm⟩

/-- One cluster stays, one is new, one cannot be started, and one goes away. Something is sent, and
a minute later what has gone away is reclaimed. -/
def struggle : List Leg × Zone :=
  let former : Inventory := { clusters := [{ name := "A" }, { name := "D" }] }
  let latter : Inventory := { clusters := [{ name := "A" }, { name := "B" }, { name := "C" }] }
  errands { blank with fleet := blank.fleet.refuseStart "B" } [(former, 0, .reload),
    (latter, 1000, .reconcileClusters), (latter, 2000, .dispatch none), (latter, 62000, .reclaim)]

private theorem struggle_course : Course struggle.1 struggle.2 := of_refusal blank_built rfl "B" _

/-- Another reconciliation keeps the two that are served, and fails with the same one. -/
theorem repeated_reconcile_untouched_of_struggle : struggle.2.retiring = .empty ∧
    ∃ summary final, Errand.reconcileClusters.work.runAlone Zone.passUntil struggle.2 =
        (some (.summary summary), final) ∧
      summary.changed = false ∧ summary.unchanged = ["A", "C"] ∧ summary.failed = ["B"] ∧
      final.active = struggle.2.active := by
  have course : Course ([_, _] ++ ⟨.reconcileClusters, _, _⟩ :: [_]) struggle.2 := struggle_course
  obtain ⟨_, repeated, final, _, ran, untouched, _, _, _, unchanged, _⟩ :=
    repeated_reconcile_untouched course (List.forall_mem_cons.mpr ⟨⟨rfl, nofun⟩,
      List.forall_mem_singleton.mpr ⟨rfl, nofun⟩⟩) rfl rfl rfl fun _ => rfl
  have answered : (Errand.reconcileClusters.work.runAlone Zone.passUntil struggle.2).1 =
      some (.summary (struggle.2.summaryOf struggle.2.offered)) := rfl
  rw [ran] at answered
  cases answered
  exact ⟨by decide, _, final, ran, unchanged, by decide, by decide, untouched.active⟩

end Course
end ClusterPool
