import ClusterPool.Proofs.Zone.Reconciliation

/-! What a reload comes to when nothing else goes on in the zone: the clusters are brought in line
with the catalog, and then its topics are added to the known ones. -/
namespace ClusterPool.Zone
open Program

/-- A zone makes its topics known anew after an announcement that is neither empty nor what is
known already. -/
def broadcasts (zone : Zone) (current : NameSet) : Bool :=
  !(current.isEmpty || zone.topics = current)

/-- Topics that need no broadcast are known already. -/
theorem union_of_silent {zone : Zone} {current : NameSet}
    (silent : zone.broadcasts current = false) : zone.topics.union current = zone.topics := by
  simp only [broadcasts, Bool.not_eq_false', Bool.or_eq_true, decide_eq_true_eq] at silent
  rcases silent with none | same
  · rw [NameTable.eq_empty_of_find? (NameTable.isEmpty_iff.mp none), NameSet.union_empty]
  · rw [← same, NameSet.union_self]

/-- How a zone stands after topics were announced: they are known, and after a broadcast every
active producer was asked to publish all that are. -/
structure Informed (current : NameSet) (before after : Zone) : Prop where
  rest : ∃ topics producers tally journal reloading bookkeeping, after =
    { before with
      topics, fleet := { before.fleet with producers }, tally, journal, reloading, bookkeeping }
  topics : after.topics = before.topics.union current
  fleet : ∀ id, after.fleet.find? id =
    if before.broadcasts current = true ∧ id ∈ idsOf before.active then
      (before.fleet.find? id).map (before.fleet.inform (before.topics.union current))
    else before.fleet.find? id

private theorem publishTopics_rest (zone : Zone) (entry : String × Slot) :
    ∃ tally journal, publishTopics zone entry =
      { zone with
        fleet := zone.fleet.update entry.2.producer (zone.fleet.inform zone.topics)
        tally, journal } := by
  unfold publishTopics withFleet
  rw [← Fleet.publish_updates]
  dsimp only
  split <;> exact ⟨_, _, rfl⟩

private theorem publishAll_rest (entries : List (String × Slot)) (zone : Zone) :
    ∃ producers tally journal, entries.foldl publishTopics zone =
      { zone with fleet := { zone.fleet with producers }, tally, journal } ∧
      (entries.foldl publishTopics zone).fleet =
        zone.fleet.publishEach zone.topics (entries.map (·.2.producer)) := by
  induction entries generalizing zone with
  | nil => exact ⟨_, _, _, rfl, rfl⟩
  | cons entry rest ih =>
    obtain ⟨tally, journal, first⟩ := publishTopics_rest zone entry
    obtain ⟨producers, tally, journal, others, fleet⟩ := ih (publishTopics zone entry)
    rw [List.foldl_cons]
    refine ⟨producers, tally, journal, ?_, ?_⟩
    · rw [others, first]
      rfl
    · rw [fleet, first, List.map_cons, Fleet.publishEach, Fleet.publishEach, List.foldl_cons,
        Fleet.publish_updates]

/-- An announcement that is empty or known already changes nothing. -/
theorem absorbTopics_silent {current : NameSet} {zone : Zone}
    (silent : zone.broadcasts current = false) : absorbTopics current zone = (false, zone) := by
  simp only [broadcasts, Bool.not_eq_false'] at silent
  rw [absorbTopics, if_pos silent]

/-- Any other announcement has all topics published on every active producer. -/
private theorem absorbTopics_loud {current : NameSet} {zone : Zone}
    (loud : zone.broadcasts current = true) : ∃ producers tally journal,
      absorbTopics current zone = (true, { zone with
        topics := zone.topics.union current
        fleet := { zone.fleet with producers }, tally, journal }) ∧
      (absorbTopics current zone).2.fleet =
        zone.fleet.publishEach (zone.topics.union current) (idsOf zone.active) := by
  have notSilent : ¬(current.isEmpty || decide (zone.topics = current)) = true := by
    simpa [broadcasts] using loud
  obtain ⟨producers, tally, journal, published, fleet⟩ :=
    publishAll_rest zone.active.entries { zone.report (.topicsChanged current zone.topics) with
      topics := zone.topics.union current }
  refine ⟨producers, tally, journal, ?_, ?_⟩
  · rw [absorbTopics, if_neg notSilent]
    exact congrArg (Prod.mk true) published
  · rw [absorbTopics, if_neg notSilent]
    exact fleet

theorem absorbTopics_rest (current : NameSet) (zone : Zone) :
    ∃ topics producers tally journal, (absorbTopics current zone).2 =
      { zone with topics, fleet := { zone.fleet with producers }, tally, journal } := by
  cases broadcast : zone.broadcasts current with
  | false =>
    rw [absorbTopics_silent broadcast]
    exact ⟨_, _, _, _, rfl⟩
  | true =>
    obtain ⟨producers, tally, journal, published, _⟩ := absorbTopics_loud broadcast
    rw [published]
    exact ⟨_, _, _, _, rfl⟩

theorem absorbTopics_informs (current : NameSet) (zone : Zone) :
    (absorbTopics current zone).1 = zone.broadcasts current ∧
      Informed current zone (absorbTopics current zone).2 := by
  cases broadcast : zone.broadcasts current with
  | false =>
    rw [absorbTopics_silent broadcast]
    refine ⟨rfl, ⟨_, _, _, _, _, _, rfl⟩, (union_of_silent broadcast).symm, fun id => ?_⟩
    simp [broadcast]
  | true =>
    obtain ⟨_, _, _, loud, fleet⟩ := absorbTopics_loud broadcast
    rw [loud] at fleet ⊢
    refine ⟨rfl, ⟨_, _, _, _, _, _, rfl⟩, rfl, fun id => ?_⟩
    rw [fleet, Fleet.find?_publishEach]
    simp [broadcast]

/-- Nothing happened but that something was counted or reported, or that a gate was passed. -/
def Quiet (before after : Zone) : Prop :=
  ∃ tally journal reloading bookkeeping, after =
    { before with tally, journal, reloading, bookkeeping }

/-- The clusters that the catalog of a zone would have it serve. None at all means that it goes on
as before. -/
def offered (zone : Zone) : List Cluster :=
  match zone.catalog.fetch with
  | .ok inventory => zone.selected inventory.clusters
  | .error _ => []

/-- The topics that the catalog of a zone announces. -/
def announced (zone : Zone) : NameSet :=
  match zone.catalog.fetch with
  | .ok inventory => inventory.topics
  | .error _ => .empty

/-- What a reconciliation of the clusters comes to, whatever the catalog answers. -/
def Realigned (before after : Zone) : Prop :=
  if before.offered = [] then Quiet before after
  else ∃ summary, Reconciled before.offered before summary after

theorem reconcileClusters_realigns (zone : Zone) (apart : zone.Apart)
    (free : zone.bookkeeping.isFree = true) (readable : zone.clock.broken = false) :
    reconcileClusters.Attains passUntil (fun _ after => Realigned zone after ∧
      after.reloading = zone.reloading ∧ after.bookkeeping.isFree = true) zone := by
  cases fetched : zone.catalog.fetch with
  | error fault =>
    refine attains_bind.mpr (attains_fetch.mpr ?_)
    rw [fetched]
    refine attains_done.mpr ⟨?_, rfl, free⟩
    have offers : zone.offered = [] := by rw [offered, fetched]
    rw [Realigned, if_pos offers]
    exact ⟨_, _, _, _, rfl⟩
  | ok inventory =>
    apply (reconcileClusters_attains zone fetched apart free readable).mono
    rintro result after ⟨summary, rfl, reloading, free, outcome⟩
    refine ⟨?_, reloading, free⟩
    have offers : zone.offered = zone.selected inventory.clusters := by rw [offered, fetched]
    rw [Realigned, offers]
    split at outcome
    · rename_i none
      obtain ⟨_, rfl⟩ := outcome
      rw [if_pos (selected_eq_nil_iff.mpr none)]
      exact ⟨_, _, _, _, rfl⟩
    · rename_i some
      rw [if_neg fun none => some (selected_eq_nil_iff.mp none)]
      exact ⟨summary, outcome⟩

theorem reconcileTopics_informs (zone : Zone) (free : zone.bookkeeping.isFree = true) :
    reconcileTopics.Attains passUntil (fun _ after => Informed zone.announced zone after ∧
      after.reloading = zone.reloading ∧ after.bookkeeping.isFree = true) zone := by
  have gates : ∀ current, (absorbTopics current zone).2.reloading = zone.reloading ∧
      (absorbTopics current zone).2.bookkeeping.isFree = true := by
    intro current
    obtain ⟨_, _, _, _, absorbed⟩ := absorbTopics_rest current zone
    rw [absorbed]
    exact ⟨rfl, free⟩
  refine attains_bind.mpr (attains_fetch.mpr ?_)
  cases fetched : zone.catalog.fetch with
  | error fault =>
    have silent : zone.announced = .empty := by rw [announced, fetched]
    exact attains_done.mpr ⟨silent ▸ (absorbTopics_informs .empty zone).2, rfl, free⟩
  | ok inventory =>
    have announces : zone.announced = inventory.topics := by rw [announced, fetched]
    refine attains_bind.mpr (attains_perform.mpr (attains_done.mpr ⟨?_, gates inventory.topics⟩))
    exact announces ▸ (absorbTopics_informs inventory.topics zone).2

namespace Quiet

theorem refl (zone : Zone) : Quiet zone zone := ⟨_, _, _, _, rfl⟩

theorem trans {first second third : Zone} (early : Quiet first second)
    (late : Quiet second third) : Quiet first third := by
  obtain ⟨_, _, _, _, rfl⟩ := early
  obtain ⟨_, _, _, _, rfl⟩ := late
  exact ⟨_, _, _, _, rfl⟩

theorem reconciled {zone before middle after : Zone} {order : List Cluster} {summary : Summary}
    (early : Quiet zone before) (reconciled : Reconciled order before summary middle)
    (late : Quiet middle after) : Reconciled order zone summary after := by
  obtain ⟨_, _, _, _, rfl⟩ := early
  obtain ⟨_, _, _, _, rfl⟩ := late
  obtain ⟨rest, active, kept, rescued, created, retiring, routes, fleet, held, summary⟩ :=
    reconciled
  refine ⟨?_, active, kept, rescued, created, retiring, routes, fleet, held, summary⟩
  obtain ⟨_, _, _, _, _, _, _, _, _, _, rfl⟩ := rest
  exact ⟨_, _, _, _, _, _, _, _, _, _, rfl⟩

theorem realigned {zone before middle after : Zone} (early : Quiet zone before)
    (realigned : Realigned before middle) (late : Quiet middle after) : Realigned zone after := by
  have offers : before.offered = zone.offered := by
    obtain ⟨_, _, _, _, rfl⟩ := early
    rfl
  rw [Realigned, offers] at realigned
  rw [Realigned]
  split
  · rename_i none
    rw [if_pos none] at realigned
    exact (early.trans realigned).trans late
  · rename_i some
    rw [if_neg some] at realigned
    obtain ⟨summary, outcome⟩ := realigned
    exact ⟨summary, early.reconciled outcome late⟩

theorem informed {zone before middle after : Zone} {current : NameSet} (early : Quiet zone before)
    (informed : Informed current before middle) (late : Quiet middle after) :
    Informed current zone after := by
  obtain ⟨_, _, _, _, rfl⟩ := early
  obtain ⟨_, _, _, _, rfl⟩ := late
  obtain ⟨rest, topics, fleet⟩ := informed
  refine ⟨?_, topics, fleet⟩
  obtain ⟨_, _, _, _, _, _, rfl⟩ := rest
  exact ⟨_, _, _, _, _, _, rfl⟩

end Quiet

theorem Realigned.readable {before after : Zone} (realigned : Realigned before after) :
    after.clock.broken = before.clock.broken := by
  unfold Realigned at realigned
  split at realigned
  · obtain ⟨_, _, _, _, rfl⟩ := realigned
    rfl
  · obtain ⟨summary, reconciled⟩ := realigned
    obtain ⟨_, _, _, _, _, _, _, _, _, _, rfl⟩ := reconciled.rest
    rfl

/-- The topics are no matter of the clusters. -/
theorem Realigned.topics {before after : Zone} (realigned : Realigned before after) :
    after.topics = before.topics ∧ after.announced = before.announced ∧
      after.fleet.refusingPublish = before.fleet.refusingPublish := by
  unfold Realigned at realigned
  split at realigned
  · obtain ⟨_, _, _, _, rfl⟩ := realigned
    exact ⟨rfl, rfl, rfl⟩
  · obtain ⟨summary, reconciled⟩ := realigned
    refine ⟨?_, ?_, by rw [reconciled.fleet]; rfl⟩
    · obtain ⟨_, _, _, _, _, _, _, _, _, _, rfl⟩ := reconciled.rest
      rfl
    · obtain ⟨_, _, _, _, _, _, _, _, _, _, rfl⟩ := reconciled.rest
      rfl

theorem Informed.readable {current : NameSet} {before after : Zone}
    (informed : Informed current before after) : after.clock.broken = before.clock.broken := by
  obtain ⟨_, _, _, _, _, _, rfl⟩ := informed.rest
  rfl

private theorem counts (zone : Zone) : Quiet zone (zone.count .reloads) := ⟨_, _, _, _, rfl⟩

private theorem fails (zone : Zone) (event : Event) : Quiet zone (reloadFailed event zone) :=
  ⟨_, _, _, _, rfl⟩

private theorem enters (zone : Zone) : Quiet zone (reloadGate.update Turnstile.enter zone) :=
  ⟨_, _, _, _, rfl⟩

private theorem leaves (zone : Zone) : Quiet zone (reloadGate.leave zone) := ⟨_, _, _, _, rfl⟩

section
variable {zone : Zone} (idle : zone.Idle)

include idle

/-- Work behind the reload gate, which is free again afterwards. -/
private theorem attains_insideReload {work : Program Zone α} {goal : α → Zone → Prop}
    (attains : work.Attains passUntil (fun value after => goal value (reloadGate.leave after) ∧
        after.reloading = zone.reloading.enter ∧ after.bookkeeping.isFree = true ∧
        after.clock.broken = false) (reloadGate.update Turnstile.enter zone)) :
    (reloadGate.inside work).Attains passUntil
      (fun value after => goal value after ∧ after.Idle) zone := by
  refine (Gate.attains_inside reloadGate_lawful idle.reload).mpr (attains.mono ?_)
  rintro value after ⟨holds, reloading, book, readable⟩
  refine ⟨holds, ?_, book, readable⟩
  change after.reloading.leave.isFree = true
  rw [reloading]
  exact leave_enter_isFree idle.reload

theorem reconcileClustersAlone_realigns (apart : zone.Apart) :
    reconcileClustersAlone.Attains passUntil (fun _ after => Realigned zone after ∧ after.Idle)
      zone := by
  have entered := reconcileClusters_realigns (reloadGate.update Turnstile.enter zone) apart
    idle.book idle.readable
  refine attains_insideReload idle (entered.mono ?_)
  rintro _ after ⟨realigned, reloading, book⟩
  exact ⟨(enters zone).realigned realigned (leaves after), reloading, book,
    realigned.readable.trans idle.readable⟩

/-- With a selection to serve, a reconciliation answers its summary. -/
theorem reconcileClustersAlone_reconciles (apart : zone.Apart) {inventory : Inventory}
    (fetched : zone.catalog.fetch = .ok inventory)
    (selects : zone.selection.select inventory.clusters ≠ []) :
    reconcileClustersAlone.Attains passUntil (fun result after => ∃ summary, result = .ok summary ∧
      Reconciled (zone.selected inventory.clusters) zone summary after) zone := by
  have entered := reconcileClusters_attains (reloadGate.update Turnstile.enter zone) fetched
    apart idle.book idle.readable
  refine (Gate.attains_inside reloadGate_lawful idle.reload).mpr (entered.mono ?_)
  rintro result after ⟨summary, rfl, _, _, outcome⟩
  rw [if_neg (by exact selects)] at outcome
  exact ⟨summary, rfl, (enters zone).reconciled outcome (leaves after)⟩

theorem reconcileTopicsAlone_informs :
    reconcileTopicsAlone.Attains passUntil
      (fun _ after => Informed zone.announced zone after ∧ after.Idle) zone := by
  have entered := reconcileTopics_informs (reloadGate.update Turnstile.enter zone) idle.book
  refine attains_insideReload idle (entered.mono ?_)
  rintro _ after ⟨informed, reloading, book⟩
  exact ⟨(enters zone).informed informed (leaves after), reloading, book,
    informed.readable.trans idle.readable⟩

/-- What a reload does after it has reconciled the clusters. -/
def reloadTopics (outcome : Except Fault Summary) : Program Zone (Option Summary) := do
  match ← reconcileTopics with
  | .ok _ => pure ()
  | .error fault => .modify (reloadFailed (.topicReloadFailed fault))
  .modify (count .reloads)
  return outcome.toOption

/-- A reload reconciles the clusters and then the topics, whatever comes of either. -/
theorem reload_attains (apart : zone.Apart) :
    reload.Attains passUntil (fun _ after => (∃ middle, Realigned zone middle ∧ middle.Idle ∧
      Informed middle.announced middle after) ∧ after.Idle) zone := by
  have entered := reconcileClusters_realigns (reloadGate.update Turnstile.enter zone) apart
    idle.book idle.readable
  refine attains_insideReload idle (attains_bind.mpr (entered.mono ?_))
  rintro outcome aligned ⟨realigned, reloading, book⟩
  -- Failures are only counted and reported, so that both halves go on from them as from nothing.
  have second : ∀ middle, Quiet aligned middle → middle.reloading = aligned.reloading →
      middle.bookkeeping = aligned.bookkeeping → (reloadTopics outcome).Attains passUntil
        (fun _ after => (∃ middle, Realigned zone middle ∧ middle.Idle ∧
            Informed middle.announced middle (reloadGate.leave after)) ∧
          after.reloading = zone.reloading.enter ∧ after.bookkeeping.isFree = true ∧
          after.clock.broken = false) middle := by
    intro middle quiet sameReloading sameBook
    refine attains_bind.mpr ((reconcileTopics_informs middle (sameBook ▸ book)).mono ?_)
    rintro answer after ⟨informed, topicReloading, topicBook⟩
    have whole := (enters zone).realigned realigned (quiet.trans (leaves middle))
    have readable : middle.clock.broken = false := whole.readable.trans idle.readable
    have gate : middle.reloading = zone.reloading.enter := sameReloading.trans reloading
    have free : (reloadGate.leave middle).Idle := by
      refine ⟨?_, sameBook ▸ book, readable⟩
      change middle.reloading.leave.isFree = true
      rw [gate]
      exact leave_enter_isFree idle.reload
    have back : Quiet (reloadGate.leave middle) middle := ⟨_, _, _, _, rfl⟩
    have ends := And.intro (topicReloading.trans gate)
      (And.intro topicBook (informed.readable.trans readable))
    cases answer with
    | ok _ =>
      refine attains_bind.mpr (attains_modify.mpr (attains_done.mpr
        ⟨⟨_, whole, free, ?_⟩, ends⟩))
      exact back.informed informed (after.counts.trans (leaves _))
    | error fault =>
      refine attains_bind.mpr (attains_modify.mpr ?_)
      refine attains_bind.mpr (attains_modify.mpr (attains_done.mpr ⟨⟨_, whole, free, ?_⟩, ?_⟩))
      · exact back.informed informed
          ((after.fails _).trans ((reloadFailed _ after).counts.trans (leaves _)))
      · dsimp only [reloadFailed, count, report]
        exact ends
  cases outcome with
  | ok summary => exact second aligned (.refl aligned) rfl rfl
  | error fault =>
    exact attains_bind.mpr (attains_modify.mpr (second _ (aligned.fails _) rfl rfl))

end

end ClusterPool.Zone
