import ClusterPool.Proofs.Zone.Ownership

/-! Clusters and routes, wherever a course of the zone has led. A reconciliation brings the pool in line
with the selected clusters, and its summary tells of each of them, once, what became of it. Every errand
leaves the routes as the names of the active clusters, so that a dispatch that nobody comes in between
hands its batch to the first cluster that it picks. -/
namespace ClusterPool
open Program

namespace Zone

/-- Every selected cluster comes from somewhere, and from one origin only. -/
private theorem ofOrigin_perm (zone : Zone) (order : List Cluster) :
    (zone.ofOrigin .kept order ++ (zone.ofOrigin .rescued order ++
      (zone.ofOrigin .created order ++ zone.ofOrigin .failed order))).Perm
      (order.map (·.name)) := by
  simp only [ofOrigin, ← List.map_append]
  apply List.Perm.map _
  induction order with
  | nil => exact .nil
  | cons cluster rest ih =>
    cases origin : zone.origin cluster.name <;>
      simp only [List.filter_cons, origin, reduceCtorEq, decide_true, decide_false,
        Bool.false_eq_true, ↓reduceIte, List.cons_append]
    case kept => exact ih.cons cluster
    case rescued => exact List.perm_middle.trans (ih.cons cluster)
    case created =>
      rw [← List.append_assoc] at ih ⊢
      exact List.perm_middle.trans (ih.cons cluster)
    case failed =>
      rw [← List.append_assoc, ← List.append_assoc] at ih ⊢
      exact List.perm_middle.trans (ih.cons cluster)

end Zone

/-- A catalog that announces a selection brings the pool in line with it, once a cluster is taken
where its name comes first. What is kept stays, what retires is rescued, what is new is built, all
others retire, and the summary divides the selection into these. -/
theorem Course.reconciles_selected {legs : List Leg} {zone : Zone} (course : Course legs zone)
    {inventory : Inventory} (fetched : zone.catalog.fetch = .ok inventory)
    (selects : zone.selection.select inventory.clusters ≠ []) :
    ∃ summary after, Zone.reconcileClustersAlone.runAlone Zone.passUntil zone =
        (some (.ok summary), after) ∧
      Cluster.FirstOfEach (zone.selection.select inventory.clusters)
        (zone.selected inventory.clusters) ∧
      Zone.Reconciled (zone.selected inventory.clusters) zone summary after ∧
      (summary.unchanged ++ (summary.rescued ++ (summary.created ++ summary.failed))).Perm
        ((zone.selected inventory.clusters).map (·.name)) := by
  obtain ⟨result, after, ran, summary, rfl, reconciled⟩ :=
    Zone.reconcileClustersAlone_reconciles course.sound.idle course.sound.apart fetched selects
  refine ⟨summary, after, ran, Cluster.firstOfEachName_first _, reconciled, ?_⟩
  rw [reconciled.summary]
  exact zone.ofOrigin_perm _

/-- A catalog in which one cluster stands twice. -/
def doubled : Inventory where
  clusters := [{ name := "B" }, { name := "C" }, { name := "B" }]

theorem Course.reconciles_selected_of_absence :
    ∃ summary after, Zone.reconcileClustersAlone.runAlone Zone.passUntil
        (absence.2.announce doubled) = (some (.ok summary), after) ∧
      summary.unchanged = ["B"] ∧ summary.created = ["C"] ∧ summary.removed = ["A"] := by
  have told := absence_course.outside (Zone.announce_outside doubled rfl)
  have fetched : (absence.2.announce doubled).catalog.fetch = .ok doubled := rfl
  obtain ⟨summary, after, ran, _, reconciled, _⟩ := told.reconciles_selected fetched (by decide)
  refine ⟨summary, after, ran, ?_⟩
  rw [reconciled.summary]
  exact ⟨rfl, rfl, rfl⟩

namespace Zone

/-- The routes are the names of the active clusters, none of them twice. -/
structure Agreed (zone : Zone) : Prop where
  once : zone.rotation.names.Nodup
  routes : ∀ name, name ∈ zone.rotation.names ↔ zone.active.contains name = true

/-- No cluster is offered under two entries. -/
theorem offered_once (zone : Zone) : (zone.offered.map (·.name)).Nodup := by
  unfold offered
  split
  · exact (Cluster.firstOfEachName_first _).once
  · exact List.nodup_nil

theorem servable_once {order : List Cluster} (once : (order.map (·.name)).Nodup) (zone : Zone) :
    (zone.servable order).Nodup := once.sublist (List.filter_sublist.map _)

namespace Agreed

/-- Whatever leaves the routes and the active clusters alone leaves them in agreement. -/
theorem of_same {before after : Zone} (agreed : before.Agreed)
    (routes : after.rotation.names = before.rotation.names)
    (active : after.active = before.active) : after.Agreed := by
  constructor
  · rw [routes]
    exact agreed.once
  · rw [routes, active]
    exact agreed.routes

theorem realign {before after : Zone} (agreed : before.Agreed)
    (realigned : before.Realigned after) : after.Agreed := by
  unfold Realigned at realigned
  split at realigned
  · obtain ⟨_, _, _, _, rfl⟩ := realigned
    exact agreed.of_same rfl rfl
  · obtain ⟨summary, reconciled⟩ := realigned
    constructor
    · rw [reconciled.routes]
      exact servable_once before.offered_once before
    · intro name
      rw [reconciled.routes]
      exact (reconciled.active name).symm

theorem inform {before after : Zone} {current : NameSet} (agreed : before.Agreed)
    (informed : Informed current before after) : after.Agreed := by
  obtain ⟨_, _, _, _, _, _, rfl⟩ := informed.rest
  exact agreed.of_same rfl rfl

/-- A zone without routes and without active clusters. -/
theorem of_nothing {zone : Zone} (routes : zone.rotation.names = [])
    (active : zone.active = .empty) : zone.Agreed := by
  constructor
  · rw [routes]
    exact List.nodup_nil
  · intro name
    rw [routes, active]
    simp

/-- Every errand keeps the agreement. -/
theorem errand {before after : Zone} (agreed : before.Agreed) {errand : Errand}
    (effect : errand.Effect before after) : after.Agreed := by
  cases errand with
  | reload =>
    obtain ⟨middle, realigned, _, informed⟩ := effect
    exact (agreed.realign realigned).inform informed
  | reconcileClusters => exact agreed.realign effect
  | reconcileTopics => exact agreed.inform effect
  | reclaim =>
    obtain ⟨_, _, _, _, _, _, rfl⟩ := effect.rest
    exact agreed.of_same rfl rfl
  | dispatch batch =>
    obtain ⟨_, _, _, _, _, rfl⟩ := effect.rest
    exact agreed.of_same rfl rfl
  | close =>
    refine of_nothing effect.routes ?_
    obtain ⟨_, _, _, _, _, _, rfl⟩ := effect.rest
    rfl

theorem build {plan : Plan} {zone : Zone} (built : Zone.build plan = .ok zone) : zone.Agreed := by
  obtain ⟨_, rfl⟩ := build_eq built
  exact of_nothing rfl rfl

/-- There are routes as long as there are active clusters. -/
theorem empty_iff {zone : Zone} (agreed : zone.Agreed) :
    zone.rotation.names = [] ↔ zone.active = .empty := by
  constructor
  · intro none
    refine NameTable.eq_empty_of_find? fun name => NameTable.contains_eq_false_iff.mp ?_
    have noRoute : name ∉ zone.rotation.names := by simp [none]
    rw [agreed.routes] at noRoute
    simpa using noRoute
  · intro none
    refine List.eq_nil_iff_forall_not_mem.mpr fun name route => ?_
    rw [agreed.routes, none, NameTable.contains_empty] at route
    cases route

end Agreed
end Zone

/-- The routes and the active clusters agree wherever a course leads. -/
theorem Course.agreed {legs : List Leg} {zone : Zone} (course : Course legs zone) :
    zone.Agreed := by
  induction course with
  | begin built _ => exact .build built
  | outside _ change agreed =>
    obtain ⟨⟨_, _, _, rfl⟩, _, _⟩ := change
    exact agreed.of_same rfl rfl
  | errand errand course ran agreed =>
    exact agreed.errand ((course.errand errand ran).effect List.mem_cons_self).2

/-! A dispatch that nobody comes in between. -/

/-- The name that the next ticket picks from the current names. -/
def Rotation.next? (rotation : Rotation) : Option String :=
  rotation.names[rotation.cursor.toNat % rotation.names.length]?

theorem Rotation.next?_eq_none_iff {rotation : Rotation} :
    rotation.next? = none ↔ rotation.names = [] := by
  rw [next?, List.getElem?_eq_none_iff]
  constructor
  · intro outside
    refine Classical.not_not.mp fun some => ?_
    exact Nat.not_lt.mpr outside (Nat.mod_lt _ (List.length_pos_iff.mpr some))
  · intro none
    rw [none]
    exact Nat.zero_le _

/-- The next ticket picks that name. -/
theorem Rotation.pick_current {rotation : Rotation} {name : String}
    (picks : rotation.next? = some name) :
    rotation.pick rotation.current = (name, { rotation with cursor := rotation.cursor + 1 }) := by
  have place : rotation.current.names[rotation.cursor.toNat % rotation.current.names.length]? =
      some name := picks
  simp [pick, ticket, place]

namespace Zone

/-- The producer that the next dispatch finds. -/
def next? (zone : Zone) : Option Producer := do
  let cluster ← zone.rotation.next?
  let slot ← zone.active.find? cluster
  zone.fleet.find? slot.producer

/-- What a dispatch answers that finds this producer, or none. -/
def answerOf (pool : String) : Option Producer → Except Fault String
  | none => .error (.noRoute pool)
  | some producer =>
    if producer.failsSends then
      .error (.sendFailed producer.cluster.name "injected send failure")
    else .ok producer.cluster.name

/-- What such a dispatch counts. -/
def outcomeOf : Option Producer → Counted
  | none => .sendsUnroutable
  | some producer => if producer.failsSends then .sendsFailed else .sendsSucceeded

/-- The next pick of a zone in agreement is an active cluster, and its producer runs. -/
theorem next?_found {zone : Zone} (agreed : zone.Agreed) (sound : zone.Sound) {cluster : String}
    (picks : zone.rotation.next? = some cluster) : ∃ slot producer,
      zone.active.find? cluster = some slot ∧ zone.fleet.find? slot.producer = some producer ∧
        producer.cluster.name = cluster ∧ producer.phase = .started ∧
        zone.next? = some producer := by
  have active := (agreed.routes cluster).mp (List.mem_of_getElem? picks)
  obtain ⟨slot, found⟩ := NameTable.contains_iff.mp active
  obtain ⟨producer, known, named, started⟩ := sound.backed cluster slot (.inl found)
  exact ⟨slot, producer, found, known, named, started, by simp [next?, picks, found, known]⟩

/-- Such a dispatch finds no route if and only if there is none to pick. -/
theorem answerOf_noRoute_iff {zone : Zone} (agreed : zone.Agreed) (sound : zone.Sound) :
    (∃ pool, answerOf zone.name zone.next? = .error (.noRoute pool)) ↔
      zone.rotation.next? = none := by
  cases picks : zone.rotation.next? with
  | none =>
    have nobody : zone.next? = none := by simp [next?, picks]
    simp [nobody, answerOf]
  | some cluster =>
    obtain ⟨_, producer, _, _, _, _, next⟩ := next?_found agreed sound picks
    cases fails : producer.failsSends <;> simp [next, answerOf, fails]

/-- Handing a batch to a producer that runs. -/
private theorem deliver_started (zone : Zone) {id : ProducerId} {producer : Producer}
    (found : zone.fleet.find? id = some producer) (started : producer.phase = .started)
    (batch : Batch) : deliver batch id zone =
      ((answerOf zone.name (some producer)).map fun _ => (),
        { zone with
          fleet := (zone.fleet.send id batch).2
          tally := zone.tally.count (outcomeOf (some producer)) }) := by
  cases fails : producer.failsSends <;>
    simp [deliver, withFleet, Fleet.send, found, Producer.send, Phase.ensureStarted, started, fails,
      answerOf, outcomeOf, Except.map, count]

/-- The fleet once the next dispatch has handed its batch to the producer that it finds. -/
def handed (zone : Zone) (batch : Batch) : Fleet :=
  match zone.rotation.next?.bind zone.active.find? with
  | none => zone.fleet
  | some slot => (zone.fleet.send slot.producer batch).2

/-- A dispatch from the current routes needs one look at them: it misses none, and does nothing but
to hand its batch over and to count how that ended. -/
theorem dispatch_hands {zone : Zone} (agreed : zone.Agreed) (sound : zone.Sound)
    (batch : Batch) :
    (dispatch batch).Attains passUntil (fun result after =>
      result = answerOf zone.name zone.next? ∧ ∃ cursor, after =
        { zone with
          rotation := { zone.rotation with cursor }, fleet := zone.handed batch
          tally := zone.tally.count (outcomeOf zone.next?) }) zone := by
  refine attains_bind.mpr (attains_get.mpr (attains_bind.mpr ?_))
  cases picks : zone.rotation.next? with
  | none =>
    have none : zone.rotation.current.names = [] := Rotation.next?_eq_none_iff.mp picks
    have nobody : zone.next? = Option.none := by simp [next?, picks]
    have kept : zone.handed batch = zone.fleet := by rw [handed, picks]; rfl
    rw [none, nobody, kept]
    refine attains_done.mpr (attains_bind.mpr (attains_get.mpr ?_))
    rw [if_pos rfl]
    exact attains_bind.mpr (attains_perform.mpr (attains_done.mpr ⟨rfl, _, rfl⟩))
  | some cluster =>
    obtain ⟨slot, producer, found, known, named, started, next⟩ := next?_found agreed sound picks
    have sent : zone.handed batch = (zone.fleet.send slot.producer batch).2 := by
      rw [handed, picks, Option.bind_some, found]
    obtain ⟨places, length⟩ : ∃ places, zone.rotation.current.names.length = places + 1 := by
      refine Nat.exists_eq_add_one.mpr (List.length_pos_iff.mpr fun none => ?_)
      rw [Rotation.next?_eq_none_iff.mpr none] at picks
      cases picks
    have looks : ∀ cursor, lookUp cluster { zone with rotation := { zone.rotation with cursor } } =
        (some slot.producer, { zone with rotation := { zone.rotation with cursor } }) :=
      fun cursor => by simp [lookUp, found]
    have delivers := deliver_started
      { zone with rotation := { zone.rotation with cursor := zone.rotation.cursor + 1 } }
      known started batch
    rw [length, next, sent]
    refine attains_bind.mpr (attains_perform.mpr ?_)
    simp only [withRotation, Rotation.pick_current picks]
    refine attains_bind.mpr (attains_perform.mpr ?_)
    rw [looks]
    refine attains_bind.mpr (attains_perform.mpr ?_)
    rw [delivers]
    refine attains_done.mpr (attains_done.mpr ⟨?_, _, rfl⟩)
    cases fails : producer.failsSends <;> simp [answerOf, Except.map, fails, named]

/-- Such a dispatch reports nothing, and counts nothing but how it ended. -/
theorem dispatch_attains {zone : Zone} (agreed : zone.Agreed) (sound : zone.Sound)
    (batch : Batch) :
    (dispatch batch).Attains passUntil (fun result after =>
      result = answerOf zone.name zone.next? ∧
        after.tally = zone.tally.count (outcomeOf zone.next?) ∧
        after.journal = zone.journal) zone := by
  refine (dispatch_hands agreed sound batch).mono ?_
  rintro _ _ ⟨rfl, _, rfl⟩
  exact ⟨rfl, rfl, rfl⟩

end Zone

namespace Course

/-- Wherever a course leads, the routes are the names of the active clusters, each once, and each of
these clusters has a producer that runs. A dispatch from there comes to its end without a miss. It
finds no route if and only if no cluster is active, its send fails if and only if the producer that
it picks fails its sends, and it never meets a producer that does not run. -/
theorem routes_iff_active {legs : List Leg} {zone : Zone} (course : Course legs zone) :
    zone.rotation.names.Nodup ∧
    (∀ name, name ∈ zone.rotation.names ↔ zone.active.contains name = true) ∧
    (∀ name slot, zone.active.find? name = some slot → ∃ producer,
      zone.fleet.find? slot.producer = some producer ∧ producer.cluster.name = name ∧
        producer.phase = .started) ∧
    ∀ batch, ∃ result after,
      (Zone.dispatch batch).runAlone Zone.passUntil zone = (some result, after) ∧
      after.tally.routingMisses = zone.tally.routingMisses ∧ after.journal = zone.journal ∧
      ((∃ pool, result = .error (.noRoute pool)) ↔ zone.active = .empty) ∧
      ((∃ cluster reason, result = .error (.sendFailed cluster reason)) ↔
        ∃ producer, zone.next? = some producer ∧ producer.failsSends = true) ∧
      ∀ cluster, result ≠ .error (.notStarted cluster) := by
  have agreed := course.agreed
  have sound := course.sound
  refine ⟨agreed.once, agreed.routes, fun name slot active => sound.backed name slot (.inl active),
    fun batch => ?_⟩
  obtain ⟨result, after, ran, rfl, tally, journal⟩ := Zone.dispatch_attains agreed sound batch
  refine ⟨_, after, ran, ?_, journal, ?_⟩
  · rw [tally]
    unfold Zone.outcomeOf
    split
    · rfl
    · split <;> rfl
  · rw [← agreed.empty_iff, ← Rotation.next?_eq_none_iff]
    refine ⟨Zone.answerOf_noRoute_iff agreed sound, ?_⟩
    cases zone.next? with
    | none => simp [Zone.answerOf]
    | some producer => cases fails : producer.failsSends <;> simp [Zone.answerOf, fails]

/-- The cluster that was away is picked first after its return, while its sends fail. -/
theorem routes_iff_active_of_absence : (absence.2.switch 0 true false).rotation.names = ["A", "B"] ∧
    ∃ result after, (Zone.dispatch {}).runAlone Zone.passUntil (absence.2.switch 0 true false) =
      (some result, after) ∧ ∃ cluster reason, result = .error (.sendFailed cluster reason) := by
  have hindered := absence_course.outside (Zone.switch_outside 0 true false rfl)
  obtain ⟨_, _, _, dispatches⟩ := hindered.routes_iff_active
  obtain ⟨result, after, ran, _, _, _, fails, _⟩ := dispatches {}
  exact ⟨rfl, result, after, ran, fails.mpr ⟨_, rfl, rfl⟩⟩

end Course
end ClusterPool
