import ClusterPool.Proofs.Zone.Moments
import ClusterPool.Proofs.Zone.Ownership

/-! The batches that producers have taken are safe in a zone: whatever is under way in it, no
producer gets lost, and apart from dispatches nothing adds to what a producer has taken. A cluster
is only ever given a producer that there is. -/
namespace ClusterPool
open Program

namespace Fleet

/-- No producer gets lost, none takes or loses batches, and new ones have taken none. -/
structure Spares (before after : Fleet) : Prop where
  lasts : ∀ id producer, before.find? id = some producer →
    ∃ latter, after.find? id = some latter ∧ latter.sent = producer.sent
  unused : ∀ id producer, before.find? id = none → after.find? id = some producer →
    producer.sent = []

namespace Spares

theorem of_alike {before after : Fleet} (alike : Alike Producer.sent before after) :
    Spares before after where
  lasts _ _ found := alike.later found
  unused id producer absent found := by
    obtain ⟨former, earlier, _⟩ := alike.earlier found
    rw [absent] at earlier
    cases earlier

theorem of_producers {before after : Fleet} (same : after.producers = before.producers) :
    Spares before after := .of_alike fun id => by rw [find?, same, ← find?]

theorem refl (fleet : Fleet) : Spares fleet fleet := .of_producers rfl

theorem trans {first second third : Fleet} (early : Spares first second)
    (late : Spares second third) : Spares first third where
  lasts id producer found := by
    obtain ⟨middle, between, same⟩ := early.lasts id producer found
    obtain ⟨latter, later, also⟩ := late.lasts id middle between
    exact ⟨latter, later, also.trans same⟩
  unused id producer absent found := by
    cases between : second.find? id with
    | none => exact late.unused id producer between found
    | some middle =>
      obtain ⟨_, again, same⟩ := late.lasts id middle between
      rw [found] at again
      cases again
      exact same.trans (early.unused id middle absent between)

theorem update (fleet : Fleet) (id : ProducerId) {action : Producer → Producer}
    (same : ∀ producer, (action producer).sent = producer.sent) :
    Spares fleet (fleet.update id action) := .of_alike (update_alike fleet id same)

theorem add (fleet : Fleet) {producer : Producer} (unused : producer.sent = []) :
    Spares fleet (fleet.add producer) where
  lasts id former found := by
    have old := (List.getElem?_eq_some_iff.mp found).1
    exact ⟨former, (List.getElem?_append_left old).trans found, rfl⟩
  unused id latter absent found := by
    have new := List.getElem?_eq_none_iff.mp absent
    rw [find?, Fleet.add, List.getElem?_append_right new, List.getElem?_singleton] at found
    split at found
    · cases found
      exact unused
    · cases found

theorem stop (fleet : Fleet) (id : ProducerId) : Spares fleet (fleet.stop id).2 := by
  rw [stop_updates]
  refine update fleet id fun producer => ?_
  unfold Producer.stop
  dsimp only
  split <;> rfl

theorem publish (fleet : Fleet) (id : ProducerId) (topics : NameSet) :
    Spares fleet (fleet.publish id topics).2 := by
  rw [publish_updates]
  exact update fleet id (inform_sent fleet topics)

theorem finishStart (fleet : Fleet) (id : ProducerId) : Spares fleet (fleet.finishStart id).2 := by
  rw [finishStart_updates]
  refine update fleet id fun producer => ?_
  unfold Producer.finishStart
  split
  · rfl
  · split <;> rfl

theorem build (fleet : Fleet) (pool : String) (cluster : Cluster) :
    Spares fleet (fleet.build pool cluster).2 := by
  unfold Fleet.build
  split
  · exact refl fleet
  · exact add fleet rfl

end Spares
end Fleet

namespace Zone

/-- Every producer that is held under a name is one of the fleet. -/
def Anchored (zone : Zone) : Prop :=
  ∀ name slot, zone.Holds name slot → ∃ producer, zone.fleet.find? slot.producer = some producer

/-- What was taken is safe, and no producer is held that was not held before. -/
structure Guarded (before after : Zone) : Prop where
  spares : Fleet.Spares before.fleet after.fleet
  held : ∀ name slot, after.Holds name slot → ∃ former earlier, before.Holds former earlier ∧
    earlier.producer = slot.producer

namespace Guarded

/-- Whatever leaves the tables alone. -/
theorem of_tables {before after : Zone} (spares : Fleet.Spares before.fleet after.fleet)
    (active : after.active = before.active) (retiring : after.retiring = before.retiring) :
    Guarded before after where
  spares := spares
  held name slot holds := by
    rw [Holds, active, retiring] at holds
    exact ⟨name, slot, holds, rfl⟩

/-- Whatever leaves the tables and the producers alone. -/
theorem of_same {before after : Zone} (fleet : after.fleet = before.fleet)
    (active : after.active = before.active) (retiring : after.retiring = before.retiring) :
    Guarded before after := .of_tables (fleet ▸ .refl before.fleet) active retiring

theorem refl (zone : Zone) : Guarded zone zone := .of_same rfl rfl rfl

theorem trans {first second third : Zone} (early : Guarded first second)
    (late : Guarded second third) : Guarded first third where
  spares := early.spares.trans late.spares
  held name slot holds := by
    obtain ⟨between, middle, holds, same⟩ := late.held name slot holds
    obtain ⟨former, earlier, holds, also⟩ := early.held between middle holds
    exact ⟨former, earlier, holds, also.trans same⟩

theorem anchored {before after : Zone} (guarded : Guarded before after)
    (anchored : before.Anchored) : after.Anchored := by
  intro name slot holds
  obtain ⟨former, earlier, held, same⟩ := guarded.held name slot holds
  obtain ⟨producer, found⟩ := anchored former earlier held
  obtain ⟨latter, later, _⟩ := guarded.spares.lasts _ producer found
  exact ⟨latter, same ▸ later⟩

end Guarded

theorem guarded_tolerant : Tolerant Guarded :=
  ⟨fun _ _ _ => .of_same rfl rfl rfl, fun _ _ => .of_same rfl rfl rfl⟩

/-! Single changes. -/

private theorem classify_guards (now : Stamp) (division : Division) (cluster : Cluster)
    (zone : Zone) : Guarded zone (classify now division cluster zone).2 := by
  unfold classify Holdings.take?
  split
  · exact .refl zone
  · cases found : zone.retiring.find? cluster.name with
    | none => exact .refl zone
    | some former =>
      simp only [Option.map_some]
      refine ⟨.refl zone.fleet, fun name slot holds => ?_⟩
      rcases holds with active | retires
      · rw [NameTable.find?_insert] at active
        split at active
        · cases active
          exact ⟨cluster.name, former, .inr found, rfl⟩
        · exact ⟨name, slot, .inl active, rfl⟩
      · rw [NameTable.find?_erase] at retires
        split at retires
        · cases retires
        · exact ⟨name, slot, .inr retires, rfl⟩

private theorem divide_guards (now : Stamp) (order : List Cluster) (zone : Zone) :
    Guarded zone (divide now order zone).2 := by
  unfold divide
  generalize ({} : Division) = division
  induction order generalizing division zone with
  | nil => exact .refl zone
  | cons cluster rest ih => exact (classify_guards now division cluster zone).trans (ih _ _)

private theorem retireOthers_guards (routes : List String) (now : Stamp) (zone : Zone) :
    Guarded zone (retireOthers routes now zone).2 := by
  have retired := retireOthers_retires routes now zone
  refine ⟨?_, fun name slot holds => ?_⟩
  · obtain ⟨_, _, _, rest⟩ := retired.rest
    rw [rest]
    exact .refl zone.fleet
  · rcases holds with active | retires
    · rw [retired.active] at active
      split at active
      · exact ⟨name, slot, .inl active, rfl⟩
      · cases active
    · rw [retired.retiring] at retires
      split at retires
      · exact ⟨name, slot, .inr retires, rfl⟩
      · cases active : zone.active.find? name with
        | none => exact ⟨name, slot, .inr (by simpa [active] using retires), rfl⟩
        | some former =>
          rw [active] at retires
          cases retires
          exact ⟨name, former, .inl active, rfl⟩

private theorem takeDue_guards (now : Stamp) (zone : Zone) : Guarded zone (takeDue now zone).2 := by
  refine ⟨.refl zone.fleet, fun name slot holds => ⟨name, slot, ?_, rfl⟩⟩
  rcases holds with active | retires
  · exact .inl active
  · rw [takeDue, Holdings.takeDue, NameTable.find?_filter, Option.filter_eq_some_iff] at retires
    exact .inr retires.1

private theorem takeRetiring_guards (zone : Zone) : Guarded zone (takeRetiring zone).2 := by
  refine ⟨.refl zone.fleet, fun name slot holds => ⟨name, slot, ?_, rfl⟩⟩
  rcases holds with active | retires
  · exact .inl active
  · cases retires

private theorem takeActive_guards (cluster : String) (zone : Zone) :
    Guarded zone (takeActive cluster zone).2 := by
  unfold takeActive Holdings.take?
  cases found : zone.active.find? cluster with
  | none => exact .refl zone
  | some taken =>
    refine ⟨.refl zone.fleet, fun name slot holds => ⟨name, slot, ?_, rfl⟩⟩
    rcases holds with active | retires
    · have kept : (zone.active.erase cluster).find? name = some slot := active
      rw [NameTable.find?_erase] at kept
      split at kept
      · cases kept
      · exact .inl kept
    · exact .inr retires

private theorem request_guards (cluster : Cluster) (zone : Zone) :
    Guarded zone (request cluster zone).2 := by
  have asked : Fleet.Spares zone.fleet { zone.fleet with
      requests := zone.fleet.requests ++ [zone.node.id ++ "/" ++ cluster.name] } :=
    .of_producers rfl
  exact .of_tables (asked.trans (.build _ zone.name cluster)) rfl rfl

private theorem finishStart_guards (id : ProducerId) (zone : Zone) :
    Guarded zone (finishStart id zone).2 := by
  have spares := Fleet.Spares.finishStart zone.fleet id
  unfold finishStart withFleet
  dsimp only
  split <;> exact .of_tables spares rfl rfl

private theorem publishFirst_guards (topics : NameSet) (cluster : Cluster) (id : ProducerId)
    (zone : Zone) : Guarded zone (publishFirst topics cluster id zone) := by
  obtain ⟨staff, fleet⟩ := publishFirst_fleet topics cluster id zone
  have spares : Fleet.Spares zone.fleet (publishFirst topics cluster id zone).fleet := by
    rw [fleet]
    split
    · exact .refl zone.fleet
    · exact .publish zone.fleet id topics
  obtain ⟨_, _, _, _, rest⟩ := staff
  rw [rest] at spares ⊢
  exact .of_tables spares rfl rfl

private theorem absorbTopics_guards (current : NameSet) (zone : Zone) :
    Guarded zone (absorbTopics current zone).2 := by
  obtain ⟨_, _, _, published⟩ := absorbTopics_informs current zone
  obtain ⟨_, _, _, _, rest⟩ := absorbTopics_rest current zone
  have spares : Fleet.Spares zone.fleet (absorbTopics current zone).2.fleet := by
    refine .of_alike fun id => ?_
    rw [published]
    split
    · rw [Option.map_map]
      congr 1
      exact funext fun producer => Fleet.inform_sent _ _ producer
    · rfl
  rw [rest] at spares ⊢
  exact .of_tables spares rfl rfl

private theorem conclude_guards (summary : Summary) (zone : Zone) :
    Guarded zone (conclude summary zone) := by
  obtain ⟨_, _, rest⟩ := conclude_rest summary zone
  rw [rest]
  exact .of_same rfl rfl rfl

/-! What the parties at work in a zone may do to each other. -/

/-- Time and everything that is not the pool's own: the catalog, the clock and the producers may
change at any moment, but no batches pass by the pool. -/
def discreet : Surroundings Zone where
  now := Zone.now
  changes before after := Fleet.Spares before.fleet after.fleet ∧
    ∃ catalog clock fleet, after = { before with catalog, clock, fleet }

/-- No producer gets lost. -/
def Lasts (before after : Zone) : Prop :=
  ∀ id producer, before.fleet.find? id = some producer →
    ∃ latter, after.fleet.find? id = some latter

theorem Guarded.lasts {before after : Zone} (guarded : Guarded before after) :
    Lasts before after := fun id producer found => by
  obtain ⟨latter, later, _⟩ := guarded.spares.lasts id producer found
  exact ⟨latter, later⟩

/-- How producers are held: nobody loses one, or has one held that there is not. -/
def anchorage : Discipline discreet Unit where
  lawful := Anchored
  assigned _ _ := True
  fresh := ()
  move _ before _ after := Lasts before after ∧ (before.Anchored → after.Anchored)
  rely _ := Lasts
  rely_refl _ _ _ producer found := ⟨producer, found⟩
  rely_trans early late id producer found := by
    obtain ⟨middle, between⟩ := early id producer found
    exact late id middle between
  stay _ _ := ⟨fun _ producer found => ⟨producer, found⟩, fun anchored => anchored⟩
  joins _ := trivial
  lawful_move move := move.2
  assigned_move _ _ _ := trivial
  rely_move _ move _ _ _ _ _ := move.1
  lawful_outside := by
    rintro before _ ⟨spares, _, _, _, rfl⟩
    exact (Guarded.of_tables spares rfl rfl).anchored
  assigned_outside _ _ := trivial
  rely_outside := by
    rintro before _ ⟨spares, _, _, _, rfl⟩ _
    exact (Guarded.of_tables spares rfl rfl).lasts

theorem Guarded.move {before after : Zone} (guarded : Guarded before after) :
    anchorage.move () before () after := ⟨guarded.lasts, guarded.anchored⟩

/-- The work keeps to the way in which producers are held, from wherever it begins. -/
def Heeds (work : Program Zone α) : Prop :=
  ∀ zone, work.Keeps anchorage (fun _ _ _ => True) (fun _ _ => True) () zone

theorem Heeds.of_guarded {work : Program Zone α} (within : work.Within Guarded) : Heeds work := by
  intro zone
  have moves : ∀ before after, Guarded before after → True →
      anchorage.move () before () after ∧ True := fun _ _ guarded _ => ⟨guarded.move, trivial⟩
  exact (within.keeps moves (fun _ _ _ _ => trivial) trivial).mono (fun _ _ _ _ => trivial)
    fun _ _ _ => trivial

theorem Heeds.bind {work : Program Zone α} {next : α → Program Zone β} (first : Heeds work)
    (second : ∀ value, Heeds (next value)) : Heeds (work.bind next) := fun zone =>
  Keeps.bind ((first zone).mono (fun value _ after _ => second value after) fun _ _ given => given)

/-- There is a producer of this number. -/
def Exists (id : ProducerId) (zone : Zone) : Prop := ∃ producer, zone.fleet.find? id = some producer

/-- A producer that there is does not get lost while the work is done. -/
private theorem keeps_knowing {work : Program Zone α} (within : work.Within Guarded)
    {id : ProducerId} {zone : Zone} (known : Exists id zone) :
    work.Keeps anchorage (fun _ _ after => Exists id after) (fun _ _ => True) () zone := by
  have moves : ∀ before after, Guarded before after → Exists id before →
      anchorage.move () before () after ∧ Exists id after := by
    rintro before after guarded ⟨producer, found⟩
    exact ⟨guarded.move, guarded.lasts id producer found⟩
  have stays : ∀ before after, Lasts before after → Exists id before → Exists id after :=
    fun before after lasts ⟨producer, found⟩ => lasts id producer found
  exact (within.keeps moves stays known).mono (fun _ _ _ kept => kept.2) fun _ _ _ => trivial

/-! The work of a pool. -/

private theorem stopProducer_guards (cluster : String) (id : ProducerId) (role : Role) :
    (stopProducer cluster id role).Within Guarded :=
  guarded_tolerant.stopProducer (fun zone => .of_tables (.stop zone.fleet id) rfl rfl) cluster role

private theorem startProducer_guards (id : ProducerId) : (startProducer id).Within Guarded :=
  guarded_tolerant.startProducer (fun zone => .of_tables (.update zone.fleet id fun _ => rfl) rfl rfl)
    (finishStart_guards id)

private theorem publication_guards (topics : NameSet) (cluster : Cluster) (id : ProducerId)
    (event : Event) (zone : Zone) :
    Guarded zone ((publishFirst topics cluster id zone).report event) :=
  (publishFirst_guards topics cluster id zone).trans (guarded_tolerant.notes _ _ _)

private theorem createProducer_guards (topics : NameSet) (cluster : Cluster) :
    (createProducer topics cluster).Within Guarded :=
  createProducer_within (request_guards cluster) startProducer_guards
    fun id => publication_guards topics cluster id _

/-- A producer that was built is one of the fleet. -/
private theorem request_exists {cluster : Cluster} {zone : Zone} {built : ProducerId}
    (answer : (request cluster zone).1 = .ok built) : Exists built (request cluster zone).2 := by
  unfold request Fleet.build at answer ⊢
  dsimp only at answer ⊢
  split
  · rename_i refused
    rw [if_pos refused] at answer
    cases answer
  · rename_i accepted
    rw [if_neg accepted] at answer
    cases answer
    exact ⟨_, by simp [Fleet.find?]; rfl⟩

/-- It still is when it has started. -/
private theorem createProducer_keeps (topics : NameSet) (cluster : Cluster) (zone : Zone) :
    (createProducer topics cluster).Keeps anchorage
      (fun result _ after => ∀ built, result = .ok built → Exists built after) (fun _ _ => True) ()
      zone := by
  have fails : ∀ {fault : Fault} {zone : Zone}, (Program.done (.error fault)).Keeps anchorage
      (fun (result : Except Fault ProducerId) _ after =>
        ∀ built, result = .ok built → Exists built after) (fun _ _ => True) () zone := by
    intro fault zone later _ built same
    cases same
  refine Keeps.bind fun before _ _ => ⟨(), (request_guards cluster before).move, ?_⟩
  intro requested lasts
  cases answer : (request cluster before).1 with
  | error fault => exact fails
  | ok built =>
    obtain ⟨producer, found⟩ := request_exists answer
    have known : Exists built requested := lasts built producer found
    refine Keeps.bind ((keeps_knowing (startProducer_guards built) known).mono ?_
      fun _ _ given => given)
    intro started _ after known
    cases started with
    | error fault => exact fails
    | ok _ =>
      have publishes := within_modify.mpr (publication_guards topics cluster built
        (.producerCreated cluster.name cluster.url))
      refine Keeps.bind ((keeps_knowing publishes known).mono ?_ fun _ _ given => given)
      rintro _ _ published ⟨producer, found⟩ later lasts _ same
      cases same
      exact lasts _ producer found

private theorem activate_moves {cluster : Cluster} {built : ProducerId} {zone : Zone}
    (known : Exists built zone) (now : Stamp) :
    anchorage.move () zone () (activate cluster built now zone).2 := by
  unfold activate
  split
  · exact anchorage.stay () zone
  · refine ⟨fun _ producer found => ⟨producer, found⟩, fun anchored name slot holds => ?_⟩
    rcases holds with active | retires
    · rw [NameTable.find?_insert] at active
      split at active
      · cases active
        exact known
      · exact anchored name slot (.inl active)
    · exact anchored name slot (.inr retires)

private theorem activate_fleet (cluster : Cluster) (id : ProducerId) (now : Stamp) (zone : Zone) :
    (activate cluster id now zone).2.fleet = zone.fleet := by
  unfold activate
  split <;> rfl

private theorem createAll_heeds (topics : NameSet) (creation : Creation) (missing : List Cluster) :
    Heeds (createAll topics creation missing) := by
  induction missing generalizing creation with
  | nil => exact fun _ _ _ => trivial
  | cons cluster rest ih =>
    intro zone
    refine Keeps.bind ((createProducer_keeps topics cluster zone).mono ?_ fun _ _ given => given)
    intro result _ after known
    cases result with
    | error fault =>
      have counts := within_modify.mpr fun zone : Zone =>
        guarded_tolerant.notes zone (zone.tally.count .reloadFailures)
          (⟨zone.name, .creationFailed cluster.name fault⟩ :: zone.journal)
      exact (Heeds.of_guarded counts).bind (fun _ => ih _) after
    | ok built =>
      refine Keeps.bind ((keeps_knowing guarded_tolerant.readClock (known built rfl)).mono ?_
        fun _ _ given => given)
      rintro now _ read ⟨producer, found⟩
      refine Keeps.bind fun before lasts _ => ⟨(), activate_moves (lasts _ producer found) now, ?_⟩
      intro activated _
      split
      · exact ih _ activated
      · have reports := fun stop => within_modify.mpr (guarded_tolerant.reportStop stop)
        exact (Heeds.of_guarded (guarded_tolerant.report _)).bind (fun _ =>
          (Heeds.of_guarded (stopProducer_guards _ _ _)).bind fun stop =>
            (Heeds.of_guarded (reports stop)).bind fun _ => ih _) activated

/-- The work leaves alone what producers have taken, and keeps to the way in which they are held. -/
structure Careful (work : Program Zone α) : Prop where
  spares : work.Within fun before after => Fleet.Spares before.fleet after.fleet
  heeds : Heeds work

namespace Careful

theorem of_guarded {work : Program Zone α} (within : work.Within Guarded) : Careful work :=
  ⟨within.mono fun _ _ guarded => guarded.spares, .of_guarded within⟩

theorem bind {work : Program Zone α} {next : α → Program Zone β} (first : Careful work)
    (second : ∀ value, Careful (next value)) : Careful (work.bind next) :=
  ⟨first.spares.bind fun value => (second value).spares,
    first.heeds.bind fun value => (second value).heeds⟩

/-- Work inside a gate, which is passed in both directions without harm. -/
theorem inside {gate : Gate Zone} {work : Program Zone α} (careful : Careful work)
    (passes : ∀ change zone, Guarded zone (gate.update change zone)) :
    Careful (gate.inside work) where
  spares := careful.spares.inside (fun zone => .refl zone.fleet) (fun zone => (passes _ zone).spares)
    fun zone => (passes _ zone).spares
  heeds zone := by
    have enters : gate.enter.Within Guarded := fun zone => ⟨passes _ zone, within_waitFor .refl _⟩
    refine Keeps.bind ((Heeds.of_guarded enters zone).mono (fun _ _ entered _ => ?_)
      fun _ _ given => given)
    refine Keeps.ending ((careful.heeds entered).mono ?_ ?_)
    · exact fun _ _ _ _ later _ _ => ⟨(), (passes _ later).move, fun _ _ => trivial⟩
    · exact fun _ _ _ later _ _ => ⟨(), (passes _ later).move, fun _ _ => trivial⟩

end Careful

private theorem spares_tolerant : Tolerant fun before after =>
    Fleet.Spares before.fleet after.fleet :=
  ⟨fun zone _ _ => .refl zone.fleet, fun zone _ => .refl zone.fleet⟩

private theorem createAll_careful (topics : NameSet) (creation : Creation)
    (missing : List Cluster) : Careful (createAll topics creation missing) where
  spares := by
    have spared : ∀ {α : Type} {work : Program Zone α}, work.Within Guarded → work.Within fun
        before after => Fleet.Spares before.fleet after.fleet :=
      fun within => within.mono fun _ _ guarded => guarded.spares
    refine spares_tolerant.createAll (fun cluster => spared (createProducer_guards topics cluster))
      (fun cluster id now zone => ?_) (fun _ _ => spared (stopProducer_guards _ _ _)) creation
      missing
    exact .of_producers (congrArg Fleet.producers (activate_fleet cluster id now zone))
  heeds := createAll_heeds topics creation missing

private theorem behindBook {work : Program Zone α} (within : work.Within Guarded) :
    Careful (bookGate.inside work) :=
  .of_guarded (guarded_tolerant.inside within)

private theorem adopt_careful (order : List Cluster) : Careful (adopt order) := by
  refine Careful.bind (behindBook ?_) fun division => ?_
  · exact guarded_tolerant.readClock.bind fun now => within_perform.mpr (divide_guards now order)
  refine (Careful.of_guarded guarded_tolerant.look).bind fun seen => ?_
  refine (createAll_careful _ _ _).bind fun creation => ?_
  refine (Careful.of_guarded guarded_tolerant.look).bind fun chosen => ?_
  refine (Careful.of_guarded (within_perform.mpr fun _ => .of_same rfl rfl rfl)).bind
    fun changed => ?_
  refine Careful.bind (behindBook ?_) fun removed => ?_
  · exact guarded_tolerant.readClock.bind fun now =>
      within_perform.mpr (retireOthers_guards _ now)
  refine (Careful.of_guarded guarded_tolerant.look).bind fun seen => ?_
  exact (Careful.of_guarded (within_modify.mpr (conclude_guards _))).bind fun _ =>
    .of_guarded within_done

private theorem reconcileClusters_careful : Careful reconcileClusters := by
  refine (Careful.of_guarded (guarded_tolerant.fetch _)).bind fun fetched => ?_
  cases fetched with
  | error fault => exact .of_guarded within_done
  | ok clusters =>
    refine (Careful.of_guarded guarded_tolerant.look).bind fun seen => ?_
    dsimp only
    split
    · exact (Careful.of_guarded (guarded_tolerant.report _)).bind fun _ => .of_guarded within_done
    · exact (adopt_careful _).bind fun _ => .of_guarded within_done

private theorem reconcileTopics_guards : reconcileTopics.Within Guarded :=
  guarded_tolerant.reconcileTopics absorbTopics_guards

private theorem reloadGate_guards (change : Turnstile → Turnstile) (zone : Zone) :
    Guarded zone (reloadGate.update change zone) := .of_same rfl rfl rfl

private theorem reload_careful : Careful reload :=
  (reconcileClusters_careful.bind fun outcome => .of_guarded
    (guarded_tolerant.afterClusters reconcileTopics_guards outcome)).inside reloadGate_guards

private theorem reclaim_guards : reclaim.Within Guarded :=
  guarded_tolerant.reclaim takeDue_guards fun _ _ => stopProducer_guards _ _ _

private theorem close_guards : close.Within Guarded := by
  refine guarded_tolerant.close takeRetiring_guards takeActive_guards stopProducer_guards
    (fun _ => .of_same rfl rfl rfl) (fun _ => .of_same rfl rfl rfl) fun last zone => ?_
  obtain ⟨_, _, settled⟩ := settle_rest last zone
  rw [settled]
  exact .of_same rfl rfl rfl

/-- Whatever is asked of a pool, except to dispatch, leaves alone what producers have taken. -/
theorem errand_careful {errand : Errand} (other : ∀ batch, errand ≠ .dispatch batch) :
    Careful errand.work := by
  cases errand with
  | reload => exact reload_careful.bind fun _ => .of_guarded within_done
  | reconcileClusters =>
    exact (reconcileClusters_careful.inside reloadGate_guards).bind fun _ =>
      .of_guarded within_done
  | reconcileTopics =>
    exact ((Careful.of_guarded reconcileTopics_guards).inside reloadGate_guards).bind fun _ =>
      .of_guarded within_done
  | reclaim => exact (Careful.of_guarded reclaim_guards).bind fun _ => .of_guarded within_done
  | dispatch batch => exact absurd rfl (other batch)
  | close => exact (Careful.of_guarded close_guards).bind fun _ => .of_guarded within_done

end Zone
end ClusterPool
