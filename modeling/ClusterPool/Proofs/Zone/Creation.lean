import ClusterPool.Proofs.Fleet
import ClusterPool.Proofs.Program.Alone
import ClusterPool.Proofs.Tables
import ClusterPool.Zone.Reconcile

/-! What comes of building and starting producers. Which of them run is decided by the failures
laid on the fleet beforehand, so that the fleet after a whole round is known in advance. -/
namespace ClusterPool
open Program

namespace Fleet

/-- The failures laid on a fleet keep a new producer of this cluster from running. -/
def refuses (fleet : Fleet) (cluster : String) : Bool :=
  fleet.refusingBuild.contains cluster || fleet.refusingStart.contains cluster

/-- A producer that was built and asked to start, and does not run. -/
def begun (fleet : Fleet) (pool : String) (cluster : Cluster) : Producer where
  pool
  cluster
  startDelay := fleet.startDelay
  refusesStart := fleet.refusingStart.contains cluster.name
  starts := 1

/-- A producer that was built and has started. -/
def launched (fleet : Fleet) (pool : String) (cluster : Cluster) : Producer :=
  { fleet.begun pool cluster with phase := .started }

/-- A producer that has started, with the topics published on it unless publishing is refused. -/
def running (fleet : Fleet) (pool : String) (topics : NameSet) (cluster : Cluster) : Producer :=
  { fleet.launched pool cluster with
    topics := if fleet.refusingPublish.contains cluster.name then .empty else topics }

/-- What is built when a producer of this cluster is asked for: nothing, a producer that does not
run, or one that does. -/
def newcomers (fleet : Fleet) (pool : String) (topics : NameSet) (cluster : Cluster) :
    List Producer :=
  if fleet.refusingBuild.contains cluster.name then []
  else if fleet.refusingStart.contains cluster.name then [fleet.begun pool cluster]
  else [fleet.running pool topics cluster]

end Fleet

namespace Zone

/-- The fleet after a pool has asked for producers of these clusters. -/
def enlist (zone : Zone) (topics : NameSet) (clusters : List Cluster) : Fleet :=
  { zone.fleet with
    requests := zone.fleet.requests ++
      clusters.map fun cluster => zone.node.id ++ "/" ++ cluster.name
    producers := zone.fleet.producers ++ clusters.flatMap (zone.fleet.newcomers zone.name topics) }

/-- A producer that was built in a round of creations is one for a cluster of the round. It runs, or
was asked to and does not. -/
theorem find?_enlist_new {zone : Zone} {topics : NameSet} {clusters : List Cluster}
    {id : ProducerId} {producer : Producer} (new : zone.fleet.producers.length ≤ id)
    (found : (zone.enlist topics clusters).find? id = some producer) : ∃ cluster ∈ clusters,
      producer = zone.fleet.begun zone.name cluster ∨
        producer = zone.fleet.running zone.name topics cluster := by
  rw [Fleet.find?, enlist, List.getElem?_append_right new] at found
  obtain ⟨cluster, inside, member⟩ := List.mem_flatMap.mp (List.mem_of_getElem? found)
  refine ⟨cluster, inside, ?_⟩
  unfold Fleet.newcomers at member
  split at member
  · cases member
  · split at member
    · exact .inl (List.mem_singleton.mp member)
    · exact .inr (List.mem_singleton.mp member)

/-- Nothing but the time waited differs after a rest. -/
theorem attains_rest {goal : Unit → Zone → Prop} {zone : Zone} (ms : Nat)
    (holds : ∀ elapsed, goal () { zone with clock := { zone.clock with elapsed } }) :
    (rest ms).Attains passUntil goal zone := by
  unfold rest
  split
  · exact attains_done.mpr (holds zone.clock.elapsed)
  · simp only [bind_eq_bind, attains_bind, attains_get, attains_sleepUntil]
    exact holds _

/-- Nothing but the fleet, the tally, the journal and the time waited differs. -/
def OnlyStaff (before after : Zone) : Prop :=
  ∃ fleet tally journal elapsed, after =
    { before with fleet, tally, journal, clock := { before.clock with elapsed } }

namespace OnlyStaff

theorem refl (zone : Zone) : OnlyStaff zone zone :=
  ⟨zone.fleet, zone.tally, zone.journal, zone.clock.elapsed, rfl⟩

theorem trans {first second third : Zone} (early : OnlyStaff first second)
    (late : OnlyStaff second third) : OnlyStaff first third := by
  obtain ⟨_, _, _, _, rfl⟩ := early
  obtain ⟨fleet, tally, journal, elapsed, rfl⟩ := late
  exact ⟨fleet, tally, journal, elapsed, rfl⟩

end OnlyStaff

/-- A start ends as the producer makes it end, after its delay. -/
private theorem startProducer_attains (id : ProducerId) (zone : Zone) :
    (startProducer id).Attains passUntil (fun result after => OnlyStaff zone after ∧
      (result, after.fleet) = (zone.fleet.update id Producer.beginStart).finishStart id) zone := by
  simp only [startProducer, bind_eq_bind, attains_bind, attains_modify, attains_get]
  refine attains_rest _ fun elapsed => ?_
  rw [attains_perform]
  unfold finishStart withFleet
  dsimp only
  split
  · exact ⟨⟨_, _, _, _, rfl⟩, rfl⟩
  · exact ⟨⟨_, _, _, _, rfl⟩, rfl⟩

theorem publishFirst_fleet (topics : NameSet) (cluster : Cluster) (id : ProducerId)
    (zone : Zone) :
    OnlyStaff zone (publishFirst topics cluster id zone) ∧
      (publishFirst topics cluster id zone).fleet =
        if topics.isEmpty then zone.fleet else (zone.fleet.publish id topics).2 := by
  unfold publishFirst withFleet
  split
  · exact ⟨.refl zone, rfl⟩
  · dsimp only
    split
    · exact ⟨⟨_, _, _, _, rfl⟩, rfl⟩
    · exact ⟨⟨_, _, _, _, rfl⟩, rfl⟩

/-- The fleet once a pool has asked for a producer, whatever comes of it. -/
def asked (zone : Zone) (cluster : Cluster) : Fleet :=
  { zone.fleet with requests := zone.fleet.requests ++ [zone.node.id ++ "/" ++ cluster.name] }

theorem request_refused {zone : Zone} {cluster : Cluster}
    (refused : zone.fleet.refusingBuild.contains cluster.name = true) :
    ∃ fault, request cluster zone = (.error fault, { zone with fleet := zone.asked cluster }) := by
  simp [request, Fleet.build, refused, asked]

theorem request_built {zone : Zone} {cluster : Cluster}
    (accepted : zone.fleet.refusingBuild.contains cluster.name = false) :
    ∃ producer, request cluster zone = (.ok zone.fleet.producers.length,
        { zone with fleet := (zone.asked cluster).add producer }) ∧
      producer.beginStart = zone.fleet.begun zone.name cluster := by
  refine ⟨_, by simp only [request, Fleet.build, accepted]; rfl, rfl⟩

private theorem begun_refuses {fleet : Fleet} {cluster : Cluster} (pool : String)
    (refused : fleet.refusingStart.contains cluster.name = true) :
    ∃ fault, (fleet.begun pool cluster).finishStart = (.error fault, fleet.begun pool cluster) := by
  simp [Producer.finishStart, Fleet.begun, refused]

private theorem begun_launches {fleet : Fleet} {cluster : Cluster} (pool : String)
    (accepted : fleet.refusingStart.contains cluster.name = false) :
    (fleet.begun pool cluster).finishStart = (.ok (), fleet.launched pool cluster) := by
  simp [Producer.finishStart, Fleet.begun, Phase.start, Fleet.launched, accepted]

/-- The topics reach a producer that has just started, unless publishing is refused. -/
private theorem first_publication (fleet : Fleet) (pool : String) (topics : NameSet)
    (cluster : Cluster) :
    (if topics.isEmpty = true then fleet.launched pool cluster
      else if fleet.refusingPublish.contains cluster.name = true then fleet.launched pool cluster
      else ((fleet.launched pool cluster).publish topics).2) =
    fleet.running pool topics cluster := by
  split
  · rename_i none
    have nothing : topics = .empty := NameTable.eq_empty_of_find? (NameTable.isEmpty_iff.mp none)
    simp [Fleet.running, Fleet.launched, Fleet.begun, nothing]
  · split
    · rename_i refused
      simp [Fleet.running, Fleet.launched, Fleet.begun, refused]
    · rename_i accepted
      simp [Fleet.running, Fleet.launched, Fleet.begun, accepted, Producer.publish_adds,
        NameSet.empty_union]

private theorem publishFirst_launched {zone middle : Zone} {cluster : Cluster} (topics : NameSet)
    (fleet : middle.fleet = (zone.asked cluster).add (zone.fleet.launched zone.name cluster)) :
    (publishFirst topics cluster zone.fleet.producers.length middle).fleet =
      (zone.asked cluster).add (zone.fleet.running zone.name topics cluster) := by
  have newest := Fleet.publish_add_newest (zone.asked cluster)
    (zone.fleet.launched zone.name cluster) topics
  rw [(publishFirst_fleet ..).2, fleet, ← first_publication]
  split
  · rfl
  · exact newest

/-- A producer for one cluster. It runs, and is the newest of its fleet, unless a failure laid on
the fleet forbids it. -/
theorem createProducer_attains (topics : NameSet) (cluster : Cluster) (zone : Zone) :
    (createProducer topics cluster).Attains passUntil (fun result after =>
      OnlyStaff zone after ∧ after.fleet = zone.enlist topics [cluster] ∧
        if zone.fleet.refuses cluster.name then ∃ fault, result = .error fault
        else result = .ok zone.fleet.producers.length) zone := by
  simp only [createProducer, bind_eq_bind, attains_bind, attains_perform]
  cases unbuilt : zone.fleet.refusingBuild.contains cluster.name with
  | true =>
    obtain ⟨fault, asks⟩ := request_refused unbuilt
    rw [asks]
    refine attains_done.mpr ⟨⟨_, _, _, _, rfl⟩, ?_, ?_⟩
    · simp [enlist, Fleet.newcomers, unbuilt, asked]
    · simp [Fleet.refuses, unbuilt]
  | false =>
    obtain ⟨producer, asks, begins⟩ := request_built unbuilt
    rw [asks]
    refine attains_bind.mpr ((startProducer_attains _ _).mono fun result middle starts => ?_)
    obtain ⟨staff, starts⟩ := starts
    have joined : OnlyStaff zone middle := OnlyStaff.trans ⟨_, _, _, _, rfl⟩ staff
    have same : zone.fleet.producers.length = (zone.asked cluster).producers.length := rfl
    rw [same, Fleet.update_add_newest, begins, Fleet.finishStart_add_newest] at starts
    cases unstarted : zone.fleet.refusingStart.contains cluster.name with
    | true =>
      obtain ⟨fault, ends⟩ := begun_refuses zone.name unstarted
      rw [ends] at starts
      obtain ⟨rfl, fleet⟩ := Prod.mk.inj starts
      refine attains_done.mpr ⟨joined, ?_, ?_⟩
      · simp [fleet, enlist, Fleet.newcomers, unbuilt, unstarted, asked, Fleet.add]
      · simp [Fleet.refuses, unstarted]
    | false =>
      rw [begun_launches zone.name unstarted] at starts
      obtain ⟨rfl, fleet⟩ := Prod.mk.inj starts
      have published := (publishFirst_fleet topics cluster zone.fleet.producers.length middle).1
      refine attains_bind.mpr (attains_modify.mpr (attains_done.mpr
        ⟨(joined.trans published).trans ⟨_, _, _, _, rfl⟩, ?_, ?_⟩))
      · apply (publishFirst_launched topics fleet).trans
        simp [enlist, Fleet.newcomers, unbuilt, unstarted, asked, Fleet.add]
      · simp [Fleet.refuses, unbuilt, unstarted]

/-- A clock that can be read is read without a change. -/
theorem attains_readClock {goal : Stamp → Zone → Prop} {zone : Zone}
    (readable : zone.clock.broken = false) :
    readClock.Attains passUntil goal zone ↔ goal zone.clock.now zone := by
  simp only [readClock, bind_eq_bind, attains_bind, attains_get, readable]
  exact attains_done

/-- What a round of creations comes to. The fleet has got its newcomers, those that run are active
under the names of their clusters, and nothing else has become of the tables. -/
structure Staffed (topics : NameSet) (missing : List Cluster) (before after : Zone) : Prop where
  rest : ∃ active fleet tally journal elapsed, after =
    { before with active, fleet, tally, journal, clock := { before.clock with elapsed } }
  fleet : after.fleet = before.enlist topics missing
  serves : ∀ cluster ∈ missing, before.fleet.refuses cluster.name = false →
    ∃ id since, after.active.find? cluster.name = some ⟨id, since⟩ ∧
      before.fleet.producers.length ≤ id ∧
      after.fleet.find? id = some (before.fleet.running before.name topics cluster)
  others : ∀ name,
    (∀ cluster ∈ missing, before.fleet.refuses cluster.name = false → cluster.name ≠ name) →
      after.active.find? name = before.active.find? name
  held : ∀ id producer, before.fleet.producers.length ≤ id → after.fleet.find? id = some producer →
    producer.phase = .started → producer.cluster ∈ missing ∧
      ∃ since, after.active.find? producer.cluster.name = some ⟨id, since⟩

/-- The fleet of a round of creations is that of its first creation, followed by the others. -/
private theorem enlist_cons {before middle : Zone} {topics : NameSet} {cluster : Cluster}
    (staff : ∃ active fleet tally journal elapsed, middle =
      { before with active, fleet, tally, journal, clock := { before.clock with elapsed } })
    (fleet : middle.fleet = before.enlist topics [cluster]) (missing : List Cluster) :
    middle.enlist topics missing = before.enlist topics (cluster :: missing) := by
  obtain ⟨_, _, _, _, _, rfl⟩ := staff
  cases fleet
  simp only [enlist, List.map_cons, List.map_nil, List.flatMap_cons, List.flatMap_nil,
    List.append_nil, List.append_assoc, List.cons_append, List.nil_append]
  rfl

namespace Staffed

theorem nil (topics : NameSet) (zone : Zone) : Staffed topics [] zone zone where
  rest := ⟨_, _, _, _, _, rfl⟩
  fleet := by simp [enlist]
  serves := by simp
  others := by simp
  held id producer beyond found _ := by
    rw [Fleet.find?, List.getElem?_eq_none beyond] at found
    cases found

private theorem newcomers_of_refused {fleet : Fleet} {cluster : Cluster} (pool : String)
    (topics : NameSet) (refused : fleet.refuses cluster.name = true) :
    fleet.newcomers pool topics cluster = [] ∨
      fleet.newcomers pool topics cluster = [fleet.begun pool cluster] := by
  simp only [Fleet.refuses, Bool.or_eq_true] at refused
  cases unbuilt : fleet.refusingBuild.contains cluster.name
  · have unstarted := refused.resolve_left (by simp [unbuilt])
    exact .inr (by simp [Fleet.newcomers, unbuilt, unstarted])
  · exact .inl (by simp [Fleet.newcomers, unbuilt])

private theorem newcomers_of_accepted {fleet : Fleet} {cluster : Cluster} (pool : String)
    (topics : NameSet) (accepted : fleet.refuses cluster.name = false) :
    fleet.newcomers pool topics cluster = [fleet.running pool topics cluster] := by
  simp only [Fleet.refuses, Bool.or_eq_false_iff] at accepted
  simp [Fleet.newcomers, accepted]

/-- A producer that was there before a round of creations is there after it. -/
theorem find?_earlier {topics : NameSet} {missing : List Cluster} {before after : Zone}
    (staffed : Staffed topics missing before after) {id : ProducerId}
    (earlier : id < before.fleet.producers.length) :
    after.fleet.find? id = before.fleet.find? id := by
  rw [staffed.fleet]
  exact List.getElem?_append_left earlier

/-- A creation and those after it make up one round, if no name comes twice. -/
theorem cons {topics : NameSet} {cluster : Cluster} {missing : List Cluster}
    {before middle after : Zone} (since : Stamp)
    (staff : ∃ active fleet tally journal elapsed, middle =
      { before with active, fleet, tally, journal, clock := { before.clock with elapsed } })
    (fleet : middle.fleet = before.enlist topics [cluster])
    (active : middle.active = if before.fleet.refuses cluster.name then before.active
      else before.active.insert cluster.name ⟨before.fleet.producers.length, since⟩)
    (apart : ∀ other ∈ missing, other.name ≠ cluster.name)
    (later : Staffed topics missing middle after) :
    Staffed topics (cluster :: missing) before after := by
  have whole := enlist_cons staff fleet missing
  have refuses : middle.fleet.refuses = before.fleet.refuses := by rw [fleet]; rfl
  have runs : middle.fleet.running middle.name topics =
      before.fleet.running before.name topics := by
    obtain ⟨_, _, _, _, _, rfl⟩ := staff
    rw [fleet]
    rfl
  have grown : middle.fleet.producers =
      before.fleet.producers ++ before.fleet.newcomers before.name topics cluster := by
    rw [fleet]
    simp [enlist]
  have longer : before.fleet.producers.length ≤ middle.fleet.producers.length := by
    simp [grown]
  -- The head of the round, whose place no later creation takes.
  have head : before.fleet.refuses cluster.name = false →
      after.active.find? cluster.name = some ⟨before.fleet.producers.length, since⟩ ∧
        after.fleet.find? before.fleet.producers.length =
          some (before.fleet.running before.name topics cluster) := by
    intro accepted
    have newest := newcomers_of_accepted before.name topics accepted
    constructor
    · rw [later.others _ fun other member _ => apart other member, active]
      simp [accepted]
    · rw [later.find?_earlier (by simp [grown, newest]), Fleet.find?, grown, newest]
      simp
  constructor
  case rest =>
    obtain ⟨_, _, _, _, _, rfl⟩ := staff
    obtain ⟨_, _, _, _, _, rfl⟩ := later.rest
    exact ⟨_, _, _, _, _, rfl⟩
  case fleet => rw [later.fleet, whole]
  case serves =>
    intro other member accepted
    rcases List.mem_cons.mp member with rfl | inside
    · exact ⟨_, _, (head accepted).1, Nat.le_refl _, (head accepted).2⟩
    · obtain ⟨id, since, found, beyond, built⟩ :=
        later.serves other inside (by rw [refuses]; exact accepted)
      exact ⟨id, since, found, Nat.le_trans longer beyond, by rw [built, runs]⟩
  case others =>
    intro name differs
    rw [later.others name fun other inside accepted =>
      differs other (List.mem_cons_of_mem _ inside) (by rw [← refuses]; exact accepted), active]
    split
    · rfl
    · rename_i accepted
      have apart := differs cluster List.mem_cons_self (by simpa using accepted)
      simp [apart.symm]
  case held =>
    intro id producer beyond found started
    by_cases inside : middle.fleet.producers.length ≤ id
    · obtain ⟨member, holds⟩ := later.held id producer inside found started
      exact ⟨List.mem_cons_of_mem _ member, holds⟩
    · rw [later.find?_earlier (Nat.lt_of_not_le inside), Fleet.find?, grown,
        List.getElem?_append_right beyond] at found
      cases refused : before.fleet.refuses cluster.name with
      | true =>
        rcases newcomers_of_refused before.name topics refused with none | one
        · simp [none] at found
        · rw [one, List.getElem?_singleton] at found
          split at found
          · cases found
            cases started
          · cases found
      | false =>
        rw [newcomers_of_accepted before.name topics refused, List.getElem?_singleton] at found
        split at found
        · rename_i first
          cases found
          have place : id = before.fleet.producers.length := by omega
          exact ⟨List.mem_cons_self, since, place ▸ (head refused).1⟩
        · cases found

end Staffed

/-- A cluster that is not active becomes so with its new producer. -/
private theorem activate_inactive {zone : Zone} {cluster : Cluster}
    (inactive : zone.active.contains cluster.name = false) (id : ProducerId) (now : Stamp) :
    activate cluster id now zone = (true, { zone with
      active := zone.active.insert cluster.name ⟨id, now⟩
      tally := zone.tally.count .producersCreated }) := by
  simp [activate, inactive]

/-- A round of creations goes through all its clusters, whichever of them fail, and finds none of
them served by then. -/
theorem createAll_attains (topics : NameSet) (missing : List Cluster)
    (apart : (missing.map (·.name)).Nodup) (creation : Creation) (zone : Zone)
    (inactive : ∀ cluster ∈ missing, zone.active.contains cluster.name = false)
    (readable : zone.clock.broken = false) :
    (createAll topics creation missing).Attains passUntil (fun result after =>
      Staffed topics missing zone after ∧ result.overtaken = creation.overtaken ∧
      result.created = creation.created ++
        (missing.filter fun cluster => !zone.fleet.refuses cluster.name).map (·.name) ∧
      result.failed = creation.failed ++
        (missing.filter fun cluster => zone.fleet.refuses cluster.name).map (·.name)) zone := by
  induction missing generalizing creation zone with
  | nil => exact attains_done.mpr ⟨.nil topics zone, rfl, by simp, by simp⟩
  | cons cluster rest ih =>
    obtain ⟨absent, apart⟩ := List.nodup_cons.mp apart
    have others : ∀ other ∈ rest, other.name ≠ cluster.name := fun other member same =>
      absent (List.mem_map.mpr ⟨other, member, same⟩)
    obtain ⟨free, later⟩ := List.forall_mem_cons.mp inactive
    simp only [createAll, bind_eq_bind]
    refine attains_bind.mpr ((createProducer_attains topics cluster zone).mono ?_)
    rintro result middle ⟨⟨_, tally, journal, elapsed, rfl⟩, rfl, outcome⟩
    cases refused : zone.fleet.refuses cluster.name with
    | true =>
      obtain ⟨fault, rfl⟩ : ∃ fault, result = .error fault := by simpa [refused] using outcome
      refine attains_bind.mpr (attains_modify.mpr
        ((ih apart _ _ (by exact later) (by exact readable)).mono ?_))
      rintro creations after ⟨staffed, overtaken, created, failed⟩
      refine ⟨.cons 0 ⟨_, _, _, _, _, rfl⟩ rfl (by simp [refused, count]) others staffed, overtaken,
        ?_, ?_⟩
      · rw [created, List.filter_cons_of_neg (by simp [refused])]
        rfl
      · rw [failed, List.filter_cons_of_pos (by exact refused), List.append_assoc]
        rfl
    | false =>
      obtain rfl : result = .ok zone.fleet.producers.length := by simpa [refused] using outcome
      refine attains_bind.mpr ((attains_readClock (by exact readable)).mpr ?_)
      refine attains_bind.mpr (attains_perform.mpr ?_)
      rw [activate_inactive (by exact free)]
      -- The clusters that are still missing have other names, and are not active either.
      have stillInactive : ∀ slot, ∀ other ∈ rest,
          (zone.active.insert cluster.name slot).contains other.name = false := by
        intro slot other member
        simp [others other member, later other member]
      apply (ih apart _ _ (stillInactive _) (by exact readable)).mono
      rintro creations after ⟨staffed, overtaken, created, failed⟩
      refine ⟨.cons _ ⟨_, _, _, _, _, rfl⟩ rfl (by simp [refused]; rfl) others staffed, overtaken,
        ?_, ?_⟩
      · rw [created, List.filter_cons_of_pos (by simp [refused]), List.append_assoc]
        rfl
      · rw [failed, List.filter_cons_of_neg (by simp [refused])]
        rfl

end Zone
end ClusterPool
