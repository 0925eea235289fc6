import ClusterPool.Proofs.Zone.Continuity

/-! Producers that nobody looks after. A producer whose start fails is dropped as it is: no table
has held it, none ever will, and it is never stopped. Each attempt to serve its cluster leaves one
more of them behind. Every other producer is held until it is stopped. -/
namespace ClusterPool

/-- The cluster of a producer that was built and has neither started nor stopped. -/
def Producer.idle? (producer : Producer) : Option Cluster :=
  if producer.phase = .created then some producer.cluster else none

namespace Zone

/-- The clusters of the producers that were built and have neither started nor stopped, the oldest
producer first. -/
def abandoned (zone : Zone) : List Cluster := zone.fleet.producers.filterMap Producer.idle?

/-- A producer of the cluster would be built, and would not start. -/
def strands (zone : Zone) (cluster : Cluster) : Bool :=
  !zone.fleet.refusingBuild.contains cluster.name && zone.fleet.refusingStart.contains cluster.name

/-- Whoever changes nobody that does not run abandons nobody. -/
theorem abandoned_of_alike {before after : Zone}
    (alike : Fleet.Alike Producer.idle? before.fleet after.fleet) :
    after.abandoned = before.abandoned := by
  have same : after.fleet.producers.map Producer.idle? =
      before.fleet.producers.map Producer.idle? :=
    List.ext_getElem? fun id => by simpa [Fleet.find?] using alike id
  have listed : ∀ producers : List Producer, producers.filterMap Producer.idle? =
      (producers.map Producer.idle?).filterMap id := fun producers => by
    rw [List.filterMap_map]
    rfl
  rw [abandoned, abandoned, listed, listed, same]

theorem abandoned_of_lives {before after : Zone}
    (lives : Fleet.Alike Producer.life before.fleet after.fleet) :
    after.abandoned = before.abandoned :=
  abandoned_of_alike (lives.map fun life => if life.2.1 = .created then some life.1 else none)

theorem abandoned_eq_nil_iff {zone : Zone} : zone.abandoned = [] ↔
    ∀ id producer, zone.fleet.find? id = some producer → producer.phase ≠ .created := by
  rw [abandoned, List.filterMap_eq_nil_iff]
  constructor
  · intro none id producer found created
    simpa [Producer.idle?, created] using none producer (List.mem_of_getElem? found)
  · intro busy producer member
    obtain ⟨id, found⟩ := List.mem_iff_getElem?.mp member
    simp [Producer.idle?, busy id producer found]

/-- Nor does whoever stops producers that are held. -/
private theorem abandoned_of_stopEach {before after : Zone} (sound : before.Sound)
    {ids : List ProducerId} (once : ids.Nodup) (owned : ∀ id ∈ ids, id ∈ before.owned)
    (fleet : after.fleet = before.fleet.stopEach ids) : after.abandoned = before.abandoned := by
  refine abandoned_of_alike fun id => ?_
  rw [fleet, Fleet.find?_stopEach _ once]
  split
  · rename_i stopped
    obtain ⟨producer, found, started⟩ := sound.owned_runs (owned id stopped)
    have stops := Producer.stop_stops (sound.orderly _ producer found).settled
    simp [found, Producer.idle?, stops, started]
  · rfl

/-- Of the producers that are built for some clusters, those are abandoned that do not start. -/
private theorem newcomers_abandoned (zone : Zone) (topics : NameSet) (clusters : List Cluster) :
    (clusters.flatMap (zone.fleet.newcomers zone.name topics)).filterMap Producer.idle? =
      clusters.filter zone.strands := by
  induction clusters with
  | nil => rfl
  | cons cluster rest ih =>
    rw [List.flatMap_cons, List.filterMap_append, ih, Fleet.newcomers]
    cases unbuilt : zone.fleet.refusingBuild.contains cluster.name <;>
      cases unstarted : zone.fleet.refusingStart.contains cluster.name <;>
        simp [strands, unbuilt, unstarted, Producer.idle?, Fleet.running, Fleet.launched,
          Fleet.begun]

theorem Realigned.abandons {before after : Zone} (realigned : before.Realigned after) :
    after.abandoned =
      before.abandoned ++ (before.missing before.offered).filter before.strands := by
  unfold Realigned at realigned
  split at realigned
  · rename_i nothing
    obtain ⟨_, _, _, _, rfl⟩ := realigned
    rw [nothing]
    exact (List.append_nil _).symm
  · obtain ⟨summary, reconciled⟩ := realigned
    rw [abandoned, reconciled.fleet, enlist, List.filterMap_append, newcomers_abandoned, abandoned]

end Zone

/-- The clusters for which a producer was abandoned on a leg. -/
def Leg.stranded (leg : Leg) : List Cluster :=
  if leg.errand.realigns then
    (leg.before.missing leg.before.offered).filter leg.before.strands
  else []

/-- What an errand adds to the abandoned producers. -/
theorem Errand.abandons {errand : Errand} {before after : Zone}
    (effect : errand.Effect before after) (sound : before.Sound) :
    after.abandoned = before.abandoned ++ (Leg.mk errand before after).stranded := by
  cases errand with
  | reload =>
    obtain ⟨middle, realigned, _, informed⟩ := effect
    exact (Zone.abandoned_of_lives informed.lives).trans realigned.abandons
  | reconcileClusters => exact effect.abandons
  | reconcileTopics =>
    exact (Zone.abandoned_of_lives effect.lives).trans (List.append_nil _).symm
  | reclaim =>
    exact (Zone.abandoned_of_stopEach sound (sound.idsOf_nodup Zone.Sound.due_holds)
      (fun _ => Zone.Sound.due_owned) effect.fleet).trans (List.append_nil _).symm
  | dispatch batch =>
    exact (Zone.abandoned_of_lives (effect.producers.map Prod.fst)).trans (List.append_nil _).symm
  | close =>
    exact (Zone.abandoned_of_stopEach sound sound.owned_nodup (fun _ owned => owned)
      effect.fleet).trans (List.append_nil _).symm

/-- A producer is held or has stopped exactly if it has ever started. -/
theorem Zone.Sound.owned_or_stopped_iff {zone : Zone} (sound : zone.Sound) {id : ProducerId}
    {producer : Producer} (found : zone.fleet.find? id = some producer) :
    (id ∈ zone.owned ∨ producer.phase = .stopped) ↔ producer.phase ≠ .created := by
  constructor
  · rintro (owned | stopped)
    · obtain ⟨_, again, started⟩ := sound.owned_runs owned
      cases found.symm.trans again
      simp [started]
    · simp [stopped]
  · intro begun
    cases phase : producer.phase with
    | created => exact absurd phase begun
    | started =>
      obtain ⟨since, holds⟩ := sound.held id producer found phase
      exact .inl (Zone.mem_owned.mpr ⟨_, _, holds, rfl⟩)
    | stopping => exact absurd phase (sound.orderly id producer found).settled
    | stopped => exact .inr rfl

namespace Course

/-- The abandoned producers are told by the legs of a course. -/
theorem abandoned_eq {legs : List Leg} {zone : Zone} (course : Course legs zone) :
    zone.abandoned = legs.reverse.flatMap Leg.stranded := by
  induction course with
  | begin built _ =>
    obtain ⟨_, rfl⟩ := Zone.build_eq built
    rfl
  | outside _ change ih => exact (Zone.abandoned_of_lives change.lives).trans ih
  | errand errand course ran ih =>
    have effect := ((errand.attains course.sound.idle course.sound.apart).of_ran ran).1
    rw [errand.abandons effect course.sound, ih, List.reverse_cons, List.flatMap_append,
      List.flatMap_singleton]

/-- Wherever a course leads, all producers that were ever built are held or have stopped if and only
if no reconciliation of the course was offered a cluster, neither active nor retiring, for which a
producer could be built that did not start. Otherwise each reconciliation has left one producer
behind for every such cluster, however often it is retried. A producer that was left behind was
asked to start once, is held by nobody, and has not been stopped; any other one is held or has
stopped. -/
theorem abandoned_eq_stranded {legs : List Leg} {zone : Zone} (course : Course legs zone) :
    ((∀ id producer, zone.fleet.find? id = some producer →
      id ∈ zone.owned ∨ producer.phase = .stopped) ↔ ∀ leg ∈ legs, leg.stranded = []) ∧
    zone.abandoned = legs.reverse.flatMap Leg.stranded ∧
    ∀ id producer, zone.fleet.find? id = some producer →
      ((id ∈ zone.owned ∨ producer.phase = .stopped) ↔ producer.phase ≠ .created) ∧
      (producer.phase = .created → producer.startCalls = 1 ∧ producer.stopCalls = 0) := by
  have sound := course.sound
  have told := course.abandoned_eq
  refine ⟨?_, told, fun id producer found => ⟨sound.owned_or_stopped_iff found, fun created => ?_⟩⟩
  · have none : zone.abandoned = [] ↔ ∀ leg ∈ legs, leg.stranded = [] := by
      rw [told, List.flatMap_eq_nil_iff]
      simp
    rw [← none, Zone.abandoned_eq_nil_iff]
    exact forall_congr' fun id => forall_congr' fun producer => forall_congr' fun found =>
      sound.owned_or_stopped_iff found
  · have orderly := sound.orderly id producer found
    refine ⟨orderly.startCalls, ?_⟩
    rw [orderly.stopCalls, created]
    rfl

/-- A cluster whose producers do not start, reloaded twice. -/
def obstinacy : List Leg × Zone :=
  let one : Inventory := { clusters := [{ name := "A" }] }
  errands { blank with fleet := blank.fleet.refuseStart "A" } [(one, 0, .reload), (one, 1, .reload)]

private theorem obstinacy_course : Course obstinacy.1 obstinacy.2 :=
  of_refusal blank_built rfl "A" _

/-- Each of the two reloads leaves a producer behind. -/
theorem abandoned_eq_stranded_of_obstinacy :
    obstinacy.1.reverse.flatMap Leg.stranded = [{ name := "A" }, { name := "A" }] ∧
    ∃ producer, obstinacy.2.fleet.find? 1 = some producer ∧ producer.phase = .created ∧
      ¬(1 ∈ obstinacy.2.owned ∨ producer.phase = .stopped) := by
  obtain ⟨_, told, each⟩ := abandoned_eq_stranded obstinacy_course
  refine ⟨told.symm.trans (by decide), _, rfl, rfl, fun kept => ?_⟩
  exact (each 1 _ rfl).1.mp kept rfl

/-- Not every producer that was built is held until it is stopped. -/
theorem abandons_some : ¬∀ legs zone, Course legs zone → ∀ id producer,
    zone.fleet.find? id = some producer → id ∈ zone.owned ∨ producer.phase = .stopped := by
  intro every
  exact absurd (every _ _ obstinacy_course 0 _ rfl) (by decide)

end Course
end ClusterPool
