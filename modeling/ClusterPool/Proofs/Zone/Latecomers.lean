import ClusterPool.Proofs.Zone.Closing
import ClusterPool.Proofs.Zone.Revising

/-! What a closing leaves behind when the clusters are reconciled while it is under way. It stops
all that retires and all that is active when it looks. A producer whose start takes longer comes to
a pool that is closed by then, and nobody stops it. Routes that were chosen before the closing and
are published after it lead to clusters that nobody serves. -/
namespace ClusterPool
open Program

namespace Zone

/-- Nothing is active, nothing retires, there are no routes, and whatever was started is stopped. -/
structure ShutDown (zone : Zone) : Prop where
  active : zone.active = .empty
  retiring : zone.retiring = .empty
  routes : zone.rotation.names = []
  stopped : ∀ id producer, zone.fleet.find? id = some producer → producer.phase ≠ .created →
    producer.phase = .stopped

/-- The producer was built after the zone was in this state, and is not one of those that a closing
has listed as active. -/
def Late (start : Zone) (listed : Holdings) (id : ProducerId) : Prop :=
  start.fleet.producers.length ≤ id ∧ id ∉ idsOf listed

/-- How a zone stands after a closing that has listed these active clusters, when the clusters were
reconciled while it was under way. -/
structure Vacated (start : Zone) (listed : Holdings) (zone : Zone) : Prop where
  retiring : zone.retiring = .empty
  /-- What is active is late, and is a producer of its cluster that runs. -/
  active : ∀ name slot, zone.active.find? name = some slot → start.Late listed slot.producer ∧
    ∃ producer, zone.fleet.find? slot.producer = some producer ∧
      producer.cluster.name = name ∧ producer.phase = .started
  /-- There are no routes, or they are all that is active, and besides only clusters that the
  closing has stopped. -/
  routes : zone.rotation.names = [] ∨
    (∀ name, zone.active.contains name = true → name ∈ zone.rotation.names) ∧
    ∀ name ∈ zone.rotation.names, zone.active.contains name = true ∨ listed.contains name = true
  /-- Of what was ever started the late producers run and are active, and all others are stopped. -/
  late : ∀ id producer, zone.fleet.find? id = some producer → producer.phase ≠ .created →
    start.Late listed id → producer.phase = .started ∧
      ∃ since, zone.active.find? producer.cluster.name = some ⟨id, since⟩
  timely : ∀ id producer, zone.fleet.find? id = some producer → producer.phase ≠ .created →
    ¬start.Late listed id → producer.phase = .stopped

namespace Vacated

variable {start zone : Zone} {listed : Holdings}

/-- The zone is shut down unless a producer came late, or routes did. -/
theorem shutDown_iff (vacated : Vacated start listed zone) : zone.ShutDown ↔
    (∀ id producer, zone.fleet.find? id = some producer → producer.phase ≠ .created →
      ¬start.Late listed id) ∧ zone.rotation.names = [] := by
  constructor
  · refine fun down => ⟨fun id producer found begun late => ?_, down.routes⟩
    have runs := (vacated.late id producer found begun late).1
    rw [down.stopped id producer found begun] at runs
    cases runs
  · rintro ⟨timely, unrouted⟩
    have active : zone.active = .empty := by
      refine NameTable.eq_empty_of_find? fun name => ?_
      cases here : zone.active.find? name with
      | none => rfl
      | some slot =>
        obtain ⟨late, producer, found, _, started⟩ := vacated.active name slot here
        exact absurd late (timely slot.producer producer found (by simp [started]))
    exact ⟨active, vacated.retiring, unrouted, fun id producer found begun =>
      vacated.timely id producer found begun (timely id producer found begun)⟩

/-- Both parties are done with what they had in their hands. -/
theorem of_shared {revision : Revision}
    (shared : Shared start.fleet.producers.length zone revision
      { drained := true, listed := some listed, cleared := true })
    (idle : revision.custody = none) : Vacated start listed zone := by
  have has : ∀ {id}, Closing.Has { drained := true, listed := some listed, cleared := true } id ↔
      id ∈ idsOf listed := Closing.has_iff rfl
  have retiring : zone.retiring = .empty := shared.drained rfl
  have active : ∀ name slot, zone.active.find? name = some slot →
      start.Late listed slot.producer ∧ name ∈ revision.scope := by
    intro name slot here
    obtain ⟨beyond, unlisted, inside⟩ := shared.latecomers rfl nofun here
    exact ⟨⟨beyond, mt has.mpr unlisted⟩, inside⟩
  -- Whoever runs is active, as nobody has anything in their hands.
  have runs : ∀ id producer, zone.fleet.find? id = some producer → producer.phase = .started →
      ∃ since, zone.active.find? producer.cluster.name = some ⟨id, since⟩ := by
    intro id producer found started
    rcases shared.held id producer found started with ⟨since, here | retires⟩ | ⟨_, hand⟩ | ⟨⟨⟩⟩
    · exact ⟨since, here⟩
    · rw [retiring] at retires
      cases retires
    · rw [idle] at hand
      cases hand
  constructor
  case retiring => exact retiring
  case active =>
    intro name slot here
    obtain ⟨producer, found, station⟩ := shared.backed name slot (.inl here)
    exact ⟨(active name slot here).1, producer, found, congrArg Prod.fst station,
      congrArg Prod.snd station⟩
  case routes =>
    refine (shared.routes rfl).imp_right fun ⟨chosen, routes⟩ => ?_
    rw [routes]
    refine ⟨fun name contained => ?_, fun name route =>
      (shared.serving chosen name route).imp_right ?_⟩
    · obtain ⟨slot, here⟩ := NameTable.contains_iff.mp contained
      exact (active name slot here).2
    · rintro ⟨_, ⟨⟩, contained⟩
      exact contained
  case late =>
    rintro id producer found begun ⟨beyond, unlisted⟩
    have started : producer.phase = .started := by
      cases phase : producer.phase with
      | created => exact absurd phase begun
      | started => rfl
      | stopping => exact absurd phase (shared.settled id producer found)
      | stopped => exact absurd (has.mp (shared.spared id producer beyond found phase)) unlisted
    exact ⟨started, runs id producer found started⟩
  case timely =>
    intro id producer found begun timely
    cases phase : producer.phase with
    | created => exact absurd phase begun
    | started =>
      obtain ⟨since, here⟩ := runs id producer found phase
      exact absurd (active _ _ here).1 timely
    | stopping => exact absurd phase (shared.settled id producer found)
    | stopped => rfl

end Vacated
end Zone

namespace Course

/-- One errand is done while a pool is closed, or is about to be. The closing answers what it has
listed as active. -/
def overlap (zone : Zone) (errand : Errand) : Crowd Zone (Answer ⊕ Holdings) :=
  ⟨zone, [errand.work.bind fun answer => done (.inl answer),
    Zone.closeListing.bind fun listed => done (.inr listed)]⟩

/-- A closing and a reconciliation of the clusters are under way at the same time, with their
moments in any order between each other. Once both are over nothing retires, and of the producers
that were ever started those run and are active that the reconciliation has built and that were not
active yet when the closing listed the active clusters. All others are stopped. There are no routes,
or they are the active clusters and besides only clusters that the closing has listed, which were
chosen before the closing took them and published after it had cleared the routes. So the pool is
shut down if and only if no producer came late and there are no routes. That the closing answers
what it has listed makes no difference to it. -/
theorem close_during_reconciliation {legs : List Leg} {start : Zone} (course : Course legs start)
    {errand : Errand} (realigns : errand.realigns = true) {final : Zone} {answer : Answer}
    {listed : Holdings}
    (becomes : Crowd.Becomes Zone.neighbourhood (overlap start errand)
      ⟨final, [.done (.inl answer), .done (.inr listed)]⟩) :
    final.retiring = .empty ∧
    (∀ name slot, final.active.find? name = some slot → start.Late listed slot.producer ∧
      ∃ producer, final.fleet.find? slot.producer = some producer ∧
        producer.cluster.name = name ∧ producer.phase = .started) ∧
    (final.rotation.names = [] ∨
      (∀ name, final.active.contains name = true → name ∈ final.rotation.names) ∧
      ∀ name ∈ final.rotation.names,
        final.active.contains name = true ∨ listed.contains name = true) ∧
    (∀ id producer, final.fleet.find? id = some producer → producer.phase ≠ .created →
      (start.Late listed id → producer.phase = .started ∧
        ∃ since, final.active.find? producer.cluster.name = some ⟨id, since⟩) ∧
      (¬start.Late listed id → producer.phase = .stopped)) ∧
    (final.ShutDown ↔ (∀ id producer, final.fleet.find? id = some producer →
      producer.phase ≠ .created → ¬start.Late listed id) ∧ final.rotation.names = []) ∧
    (Zone.closeListing.bind fun _ => done ()) = Zone.close := by
  have revises : (errand.work.bind fun answer => done (.inl answer)).Guards Zone.neighbourhood
      (Zone.Shared start.fleet.producers.length)
      (fun (_ : Answer ⊕ Holdings) later => later.custody = none) {} :=
    Guards.bind (Errand.realigns_revises realigns)
  have closes : (Zone.closeListing.bind fun listed => done (.inr listed)).Guards
      Zone.neighbourhood (Zone.SharedBy start.fleet.producers.length)
      (fun (value : Answer ⊕ Holdings) later => ∃ listed, value = .inr listed ∧
        later = { drained := true, listed := some listed, cleared := true }) {} :=
    Guards.bind (Zone.closeListing_closes.mono fun listed _ same => ⟨listed, rfl, same⟩)
  obtain ⟨revision, closing, _, _, parties, shared, ended, closed⟩ := becomes.guarded
    (.begins course.sound) revises closes
    fun before after _ _ change shared => shared.still (.of_outside change)
  cases parties
  obtain ⟨_, ⟨⟩, rfl⟩ := closed
  have vacated := Zone.Vacated.of_shared shared ended
  exact ⟨vacated.retiring, vacated.active, vacated.routes,
    fun id producer found begun => ⟨vacated.late id producer found begun,
      vacated.timely id producer found begun⟩,
    vacated.shutDown_iff, Zone.closeListing_close⟩

/-- A pool that has not begun, whose catalog announces one cluster, and whose producers take a while
to start. -/
def sluggish : Zone :=
  { blank with
    catalog := .inMemory [{ name := "A" }] .empty
    fleet := { startDelay := 100 } }

private theorem sluggish_course : Course [] sluggish := by
  have built : Zone.build { catalog := some (.inMemory [{ name := "A" }] .empty) } =
      .ok { sluggish with fleet := {} } := rfl
  exact (Course.begin built rfl).outside (.of_producers ⟨_, _, _, rfl⟩ rfl rfl)

/-- Of two parties the first goes on for so many moments, the second comes to its end, time passes,
and the first goes on. -/
def overtaken (start : Zone) (early : Nat) (parties : List (Program Zone α)) : Crowd Zone α :=
  let waiting := Crowd.advances Zone.neighbourhood 0 early ⟨start, parties⟩
  let closed := waiting.advances Zone.neighbourhood 1 20
  Crowd.advances Zone.neighbourhood 0 20 ⟨closed.state.passUntil 100, closed.parties⟩

private theorem time_passes {start crowd : Crowd Zone α}
    (becomes : Crowd.Becomes Zone.neighbourhood start crowd)
    (readable : crowd.state.clock.broken = false) (moment : Nat) :
    Crowd.Becomes Zone.neighbourhood start ⟨crowd.state.passUntil moment, crowd.parties⟩ := by
  have change : crowd.state.Outside (crowd.state.passUntil moment) :=
    .of_producers ⟨_, _, _, rfl⟩ readable rfl
  exact Crowd.Becomes.outside becomes change

private theorem overtaken_becomes (start : Zone) (early : Nat) (parties : List (Program Zone α))
    (readable : (Crowd.advances Zone.neighbourhood 1 20
      (Crowd.advances Zone.neighbourhood 0 early ⟨start, parties⟩)).state.clock.broken = false) :
    Crowd.Becomes Zone.neighbourhood ⟨start, parties⟩ (overtaken start early parties) := by
  have begun : Crowd.Becomes Zone.neighbourhood ⟨start, parties⟩ ⟨start, parties⟩ := .start
  exact (time_passes ((begun.advances 0 early).advances 1 20) readable 100).advances 0 20

/-- The producer that the reload has built is late, and runs in a pool that is closed. -/
theorem close_during_reconciliation_of_latecomer :
    ∃ answer listed, (overtaken sluggish 20 (overlap sluggish .reload).parties).outcome? =
        some (.inl answer, .inr listed) ∧
      sluggish.Late listed 0 ∧
      (overtaken sluggish 20 (overlap sluggish .reload).parties).state.retiring = .empty ∧
      ¬(overtaken sluggish 20 (overlap sluggish .reload).parties).state.ShutDown := by
  have ended : ((overtaken sluggish 20 (overlap sluggish .reload).parties).outcome?.map
      fun values => (values.1.isLeft, values.2.getRight?.map Zone.idsOf)) =
        some (true, some []) := by
    decide +kernel
  have started :
      ((overtaken sluggish 20 (overlap sluggish .reload).parties).state.fleet.find? 0).map
        (·.phase) = some .started := by
    decide +kernel
  obtain ⟨⟨first, second⟩, both, shape⟩ := Option.map_eq_some_iff.mp ended
  obtain ⟨isLeft, isRight⟩ := Prod.mk.inj shape
  obtain ⟨answer, rfl⟩ := Sum.isLeft_iff.mp isLeft
  obtain ⟨listed, right, nobody⟩ := Option.map_eq_some_iff.mp isRight
  rw [Sum.getRight?_eq_some_iff] at right
  subst right
  have becomes :=
    overtaken_becomes sluggish 20 (overlap sluggish .reload).parties (by decide +kernel)
  rw [Crowd.eq_of_outcome? both] at becomes
  obtain ⟨retiring, _, _, _, shutDown, _⟩ :=
    close_during_reconciliation sluggish_course (show Errand.reload.realigns = true from rfl)
      becomes
  have late : sluggish.Late listed 0 := ⟨Nat.le_refl 0, by simp [nobody]⟩
  obtain ⟨producer, found, runs⟩ := Option.map_eq_some_iff.mp started
  exact ⟨answer, listed, both, late, retiring,
    fun down => (shutDown.mp down).1 0 producer found (by simp [runs]) late⟩

/-- That pool with producers that start at once. -/
def eager : Zone := { sluggish with fleet := {} }

/-- The reload has chosen its routes when the closing begins, and publishes them when it is over:
they lead to a cluster that nobody serves any more, though no producer came late. -/
theorem stale_routes_of_eager : ∃ final answer listed,
    Crowd.Becomes Zone.neighbourhood (overlap eager .reload)
      ⟨final, [.done (.inl answer), .done (.inr listed)]⟩ ∧
    final.active.names = [] ∧ Zone.idsOf listed = [0] ∧ final.rotation.names = ["A"] := by
  have ended : ((overtaken eager 19 (overlap eager .reload).parties).outcome?.map
      fun values => (values.1.isLeft, values.2.getRight?.map Zone.idsOf)) =
        some (true, some [0]) := by
    decide +kernel
  obtain ⟨⟨first, second⟩, both, shape⟩ := Option.map_eq_some_iff.mp ended
  obtain ⟨isLeft, isRight⟩ := Prod.mk.inj shape
  obtain ⟨answer, rfl⟩ := Sum.isLeft_iff.mp isLeft
  obtain ⟨listed, right, had⟩ := Option.map_eq_some_iff.mp isRight
  rw [Sum.getRight?_eq_some_iff] at right
  subst right
  have becomes := overtaken_becomes eager 19 (overlap eager .reload).parties (by decide +kernel)
  rw [Crowd.eq_of_outcome? both] at becomes
  exact ⟨_, answer, listed, becomes, by decide +kernel, had, by decide +kernel⟩

/-- A closing during a reload need not leave a pool shut down. -/
theorem latecomer_runs_on : ¬∀ (legs : List Leg) (start : Zone) (errand : Errand) (final : Zone)
    (answer closed : Answer), Course legs start → errand.realigns = true →
      Crowd.Becomes Zone.neighbourhood ⟨start, [errand.work, Errand.close.work]⟩
        ⟨final, [.done answer, .done closed]⟩ → final.ShutDown := by
  intro claim
  have ended :
      (overtaken sluggish 20 [Errand.reload.work, Errand.close.work]).outcome?.isSome = true := by
    decide +kernel
  obtain ⟨⟨answer, closed⟩, both⟩ := Option.isSome_iff_exists.mp ended
  have becomes :=
    overtaken_becomes sluggish 20 [Errand.reload.work, Errand.close.work] (by decide +kernel)
  rw [Crowd.eq_of_outcome? both] at becomes
  have empty := (claim [] sluggish .reload _ _ _ sluggish_course rfl becomes).active
  have active : (overtaken sluggish 20
      [Errand.reload.work, Errand.close.work]).state.active.names = ["A"] := by
    decide +kernel
  rw [empty] at active
  cases active

end Course
end ClusterPool
