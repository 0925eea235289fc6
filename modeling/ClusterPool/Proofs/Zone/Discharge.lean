import ClusterPool.Proofs.Program.Trace
import ClusterPool.Proofs.Zone.Moments
import ClusterPool.Proofs.Zone.Rescue

/-! What a closing does, call by call. It asks every producer that the pool holds to stop, each
once, those that retire before those that are active, and nobody else; a second closing finds nobody
to ask. Whatever the pool serves its clusters with later was built later. -/
namespace ClusterPool
open Program

namespace Zone

/-- The producers asked to stop from one state of a zone to another, as often as each was. -/
def stopCalls (before after : Zone) : List ProducerId :=
  (List.range after.fleet.producers.length).flatMap fun id =>
    List.replicate (after.stops id - before.stops id).toNat id

theorem stopCalls_of_fleet {before after : Zone} (same : after.fleet = before.fleet) :
    before.stopCalls after = [] := by
  have stops : ∀ id, after.stops id = before.stops id := fun id => by rw [stops, stops, same]
  simp [stopCalls, stops]

/-- One producer among all is the only one. -/
private theorem flatMap_single {id : ProducerId} {count : Nat} (inside : id < count) :
    ((List.range count).flatMap fun other => List.replicate (if other = id then 1 else 0) other) =
      [id] := by
  have others : ∀ few, few ≤ id → ((List.range few).flatMap fun other =>
      List.replicate (if other = id then 1 else 0) other) = [] := by
    intro few below
    refine List.flatMap_eq_nil_iff.mpr fun other member => ?_
    rw [if_neg (Nat.ne_of_lt (Nat.lt_of_lt_of_le (List.mem_range.mp member) below))]
    rfl
  induction count with
  | zero => cases inside
  | succ count ih =>
    rw [List.range_succ, List.flatMap_append, List.flatMap_singleton]
    rcases Nat.lt_succ_iff_lt_or_eq.mp inside with before | rfl
    · rw [ih before, if_neg (Nat.ne_of_gt before)]
      rfl
    · rw [others _ (Nat.le_refl _), if_pos rfl]
      rfl

/-- A stop is one call to one producer. -/
theorem stopCalls_stop {zone : Zone} {id : ProducerId} {producer : Producer}
    (found : zone.fleet.find? id = some producer) :
    zone.stopCalls { zone with fleet := (zone.fleet.stop id).2 } = [id] := by
  have length : (zone.fleet.stop id).2.producers.length = zone.fleet.producers.length := by
    rw [Fleet.stop_updates, Fleet.update, List.length_modify]
  have calls : ∀ other, ({ zone with fleet := (zone.fleet.stop id).2 }.stops other -
      zone.stops other).toNat = if other = id then 1 else 0 := by
    intro other
    rw [stops, stops, Fleet.stop_updates, Fleet.find?_update]
    by_cases same : other = id
    · subst same
      simp [found, Producer.stop_counts, UInt32.add_comm _ 1]
    · simp [same, Ne.symm same]
  simp only [stopCalls, calls, length]
  exact flatMap_single (List.getElem?_eq_some_iff.mp found).1

/-- All that a piece of work asks of the fleet: that these producers stop, one after the other. -/
abbrev Halts (calls : List ProducerId) (goal : α → Zone → Prop) (work : Program Zone α)
    (zone : Zone) : Prop :=
  work.Traces passUntil stopCalls calls goal zone

/-- Work that leaves the fleet alone asks nobody to stop. -/
theorem halts_nobody {goal : α → Zone → Prop} {work : Program Zone α} {zone : Zone}
    (attains : work.Attains passUntil goal zone)
    (within : work.Within fun before after => after.fleet = before.fleet) :
    Halts [] goal work zone :=
  attains.traces (within.mono fun _ _ => stopCalls_of_fleet) fun _ _ _ => rfl

/-- The same clusters are active, and no producer is lost. -/
private structure Remains (before after : Zone) : Prop where
  active : after.active = before.active
  fleet : ∀ id producer, before.fleet.find? id = some producer →
    ∃ latter, after.fleet.find? id = some latter

private theorem Remains.trans {first second third : Zone} (early : Remains first second)
    (late : Remains second third) : Remains first third where
  active := late.active.trans early.active
  fleet id producer found := by
    obtain ⟨latter, later⟩ := early.fleet id producer found
    exact late.fleet id latter later

private theorem stopProducer_halts (cluster : String) (role : Role) {zone : Zone} {id : ProducerId}
    {producer : Producer} (found : zone.fleet.find? id = some producer) :
    Halts [id] (fun _ after => Remains zone after) (stopProducer cluster id role) zone := by
  have lasts : Remains zone { zone with fleet := (zone.fleet.stop id).2 } := by
    refine ⟨rfl, fun other _ found => ?_⟩
    rw [Fleet.stop_updates]
    exact Fleet.update_lasts ⟨_, found⟩ id _
  change Halts ([id] ++ []) _ _ _
  refine Traces.bind (traces_perform (stopCalls_stop found) (halts_nobody ?_ ?_))
  · refine attains_bind.mpr (attains_get.mpr (attains_bind.mpr (attains_rest _ fun elapsed => ?_)))
    exact attains_done.mpr ⟨lasts.active, lasts.fleet⟩
  · refine Within.bind (within_get ?_) fun _ => Within.bind (rest_within ?_ _) fun _ => within_done
    all_goals exact fun _ => rfl

private theorem settle_fleet (last : Option StopReport) (zone : Zone) :
    (zone.settle last).fleet = zone.fleet ∧ (zone.settle last).active = zone.active := by
  obtain ⟨_, _, settled⟩ := settle_rest last zone
  rw [settled]
  exact ⟨rfl, rfl⟩

private theorem stopAll_halts (role : Role) (last : Option StopReport)
    (entries : List (String × Slot)) (zone : Zone)
    (known : ∀ entry ∈ entries, ∃ producer, zone.fleet.find? entry.2.producer = some producer) :
    Halts (entries.map (·.2.producer)) (fun _ after => Remains zone after)
      (stopAll role last entries) zone := by
  induction entries generalizing last zone with
  | nil => exact traces_done ⟨rfl, fun _ producer found => ⟨producer, found⟩⟩
  | cons entry rest ih =>
    obtain ⟨⟨producer, found⟩, others⟩ := List.forall_mem_cons.mp known
    obtain ⟨fleet, active⟩ := settle_fleet last zone
    change Halts ([] ++ ([entry.2.producer] ++ rest.map (·.2.producer))) _ _ _
    refine Traces.bind (traces_modify (stopCalls_of_fleet fleet)
      (Traces.bind ((stopProducer_halts entry.1 role (by rw [fleet]; exact found)).mono ?_)))
    intro stop stopped lasts
    have settled : Remains zone (zone.settle last) :=
      ⟨active, fun _ producer found => ⟨producer, by rw [fleet]; exact found⟩⟩
    have whole := settled.trans lasts
    refine (ih (some stop) stopped fun other member => ?_).mono fun _ _ later => whole.trans later
    obtain ⟨producer, found⟩ := others other member
    exact whole.fleet _ producer found

/-- Each active producer is asked when its turn comes. -/
private theorem stopActive_halts (last : Option StopReport) (entries : List (String × Slot))
    (zone : Zone) (all : zone.active.entries = entries)
    (known : ∀ entry ∈ entries, ∃ producer, zone.fleet.find? entry.2.producer = some producer) :
    Halts (entries.map (·.2.producer)) (fun _ _ => True) (stopActive last (entries.map (·.1)))
      zone := by
  induction entries generalizing last zone with
  | nil => exact traces_done trivial
  | cons entry rest ih =>
    obtain ⟨found, fewer⟩ := erase_first all
    have taken : takeActive entry.1 zone =
        ([entry], { zone with active := zone.active.erase entry.1 }) := by
      simp [takeActive, Holdings.take?, found]
    obtain ⟨first, others⟩ := List.forall_mem_cons.mp known
    have stops := stopAll_halts .active last [entry]
      { zone with active := zone.active.erase entry.1 } (List.forall_mem_singleton.mpr first)
    change Halts ([] ++ ([entry.2.producer] ++ rest.map (·.2.producer))) _ _ _
    refine Traces.bind (traces_perform (stopCalls_of_fleet (by rw [taken])) ?_)
    rw [taken]
    refine Traces.bind (stops.mono fun between stopped lasts => ?_)
    refine ih between stopped (by rw [lasts.active]; exact fewer) fun other member => ?_
    obtain ⟨producer, found⟩ := others other member
    exact lasts.fleet _ producer found

private theorem finishClose_halts (last : Option StopReport) (zone : Zone) :
    Halts [] (fun _ _ => True) (finishClose last) zone := by
  refine halts_nobody ?_ ?_
  · exact attains_bind.mpr (attains_modify.mpr (attains_bind.mpr (attains_modify.mpr
      (attains_bind.mpr (attains_modify.mpr (attains_modify.mpr trivial))))))
  · refine Within.bind (within_modify.mpr fun zone => ?_) fun _ => Within.bind
      (within_modify.mpr ?_) fun _ => Within.bind (within_modify.mpr ?_) fun _ =>
        within_modify.mpr ?_
    · exact (settle_fleet last zone).1
    all_goals exact fun _ => rfl

/-- A closing asks those that retire to stop, and then those that are active. -/
theorem close_halts {zone : Zone} (sound : zone.Sound) :
    Halts zone.owned (fun _ _ => True) close zone := by
  have known : ∀ table : Holdings, (∀ name slot, table.find? name = some slot →
      zone.Holds name slot) → ∀ entry ∈ table.entries, ∃ producer,
        zone.fleet.find? entry.2.producer = some producer := by
    intro table held entry member
    obtain ⟨producer, found, _⟩ := sound.backed _ _ (held _ _ (NameTable.find?_of_mem member))
    exact ⟨producer, found⟩
  have calls : zone.owned =
      [] ++ ([] ++ (idsOf zone.retiring ++ ([] ++ (idsOf zone.active ++ [])))) := by simp [owned]
  rw [calls]
  unfold close beginClose
  simp only [bind_eq_bind, Program.bind_assoc]
  refine Traces.bind (halts_nobody ((Gate.attains_enter bookGate_lawful sound.idle.book).mpr ?_) ?_)
  · have retirement := stopAll_halts .retiring none zone.retiring.entries
      (takeRetiring (bookGate.update Turnstile.enter zone)).2
      (known zone.retiring fun _ _ => .inr)
    refine Traces.bind (traces_perform (stopCalls_of_fleet rfl)
      (Traces.bind (retirement.mono fun last stopped lasts => ?_)))
    refine Traces.bind (halts_nobody (attains_get.mpr ?_) (within_get fun _ => rfl))
    have active : stopped.active = zone.active := lasts.active
    rw [active]
    refine Traces.bind ((stopActive_halts last zone.active.entries stopped (by rw [active])
      fun entry member => ?_).mono fun last after _ => finishClose_halts last after)
    obtain ⟨producer, found⟩ := known zone.active (fun _ _ => .inl) entry member
    exact lasts.fleet _ producer found
  · refine fun _ => ⟨rfl, within_waitFor ?_ _⟩
    exact fun _ => rfl

/-- How a zone stands to one before it of which all producers were stopped that it held. -/
structure Discharged (before after : Zone) : Prop where
  stopped : ∀ id ∈ before.owned, ∃ producer, after.fleet.find? id = some producer ∧
    producer.phase = .stopped
  stops : ∀ id, after.stops id = before.stops id + if id ∈ before.owned then 1 else 0
  failures : after.tally.stopFailures =
    before.tally.stopFailures + .ofNat (before.owned.countP before.failsStop)
  active : after.active = .empty
  retiring : after.retiring = .empty
  routes : after.rotation.names = []
  topics : after.topics = .empty

theorem Closed.discharged {before after : Zone} (closed : before.Closed after)
    (sound : before.Sound) (failures : after.tally.stopFailures =
      before.tally.stopFailures + .ofNat (before.owned.countP before.failsStop)) :
    before.Discharged after := by
  have found? : ∀ id, after.fleet.find? id = if id ∈ before.owned then
      (before.fleet.find? id).map fun producer => producer.stop.2
      else before.fleet.find? id := fun id => by
    rw [closed.fleet]
    exact Fleet.find?_stopEach _ sound.owned_nodup id
  constructor
  case stopped =>
    intro id held
    obtain ⟨producer, found, started⟩ := sound.owned_runs held
    refine ⟨producer.stop.2, by rw [found?, if_pos held, found, Option.map_some], ?_⟩
    rw [Producer.stop_stops (by simp [started])]
  case stops =>
    intro id
    rw [stops, found?]
    split
    · rename_i held
      obtain ⟨producer, found, _⟩ := sound.owned_runs held
      simp [stops, found, Producer.stop_counts]
    · exact (UInt32.add_zero _).symm
  case failures => exact failures
  case routes => exact closed.routes
  all_goals
    obtain ⟨_, _, _, _, _, _, rfl⟩ := closed.rest
    rfl

/-- A producer that was built and is held by nobody, with its life. -/
def Released (zone : Zone) (id : ProducerId) (life : Producer.Life) : Prop :=
  id ∉ zone.owned ∧ (zone.fleet.find? id).map Producer.life = some life

section
variable {before after : Zone} {id : ProducerId} {life : Producer.Life}

theorem Released.of_lives (released : before.Released id life)
    (active : after.active = before.active) (retiring : after.retiring = before.retiring)
    (lives : Fleet.Alike Producer.life before.fleet after.fleet) : after.Released id life := by
  refine ⟨?_, (lives id).trans released.2⟩
  rw [owned, active, retiring]
  exact released.1

/-- Whoever is stopped is held. -/
theorem Released.of_stopEach (released : before.Released id life) {ids : List ProducerId}
    (once : ids.Nodup) (within : ∀ id ∈ ids, id ∈ before.owned)
    (fleet : after.fleet = before.fleet.stopEach ids)
    (fewer : ∀ id ∈ after.owned, id ∈ before.owned) : after.Released id life := by
  refine ⟨fun held => released.1 (fewer id held), ?_⟩
  rw [fleet, Fleet.find?_stopEach _ once, if_neg fun stopped => released.1 (within id stopped)]
  exact released.2

/-- A reconciliation takes nobody whom it has not built or found held. -/
theorem Realigned.releases (realigned : before.Realigned after)
    (released : before.Released id life) : after.Released id life := by
  unfold Realigned at realigned
  split at realigned
  · obtain ⟨_, _, _, _, rfl⟩ := realigned
    exact released
  · obtain ⟨summary, reconciled⟩ := realigned
    obtain ⟨unheld, lived⟩ := released
    obtain ⟨producer, found, same⟩ := Option.map_eq_some_iff.mp lived
    refine ⟨fun held => unheld ?_, by rw [reconciled.find?_known found, Option.map_some, same]⟩
    obtain ⟨name, slot, active | retires, rfl⟩ := mem_owned.mp held
    · obtain ⟨cluster, _, rfl, kept | ⟨_, former, retired, rfl⟩ | ⟨new, _⟩⟩ :=
        reconciled.source active
      · exact mem_owned.mpr ⟨_, slot, .inl kept, rfl⟩
      · exact mem_owned.mpr ⟨_, former, .inr retired, rfl⟩
      · exact absurd (List.getElem?_eq_some_iff.mp found).1 (Nat.not_lt.mpr new)
    · obtain ⟨_, ⟨former, active, rfl⟩ | retired⟩ := reconciled.ledgerSource retires
      · exact mem_owned.mpr ⟨name, former, .inl active, rfl⟩
      · exact mem_owned.mpr ⟨name, slot, .inr retired, rfl⟩

theorem Outside.releases (change : before.Outside after) (released : before.Released id life) :
    after.Released id life := by
  have lives := change.lives
  obtain ⟨⟨_, _, _, rfl⟩, _, _⟩ := change
  exact released.of_lives rfl rfl lives

theorem Informed.releases {current : NameSet} (informed : Informed current before after)
    (released : before.Released id life) : after.Released id life := by
  have lives := informed.lives
  obtain ⟨_, _, _, _, _, _, rfl⟩ := informed.rest
  exact released.of_lives rfl rfl lives

end
end Zone

/-- Only a reconciliation of the clusters takes producers in hand. -/
theorem Errand.owned_subset {errand : Errand} {before after : Zone}
    (effect : errand.Effect before after) (calm : errand.realigns = false) :
    ∀ id ∈ after.owned, id ∈ before.owned := by
  cases errand with
  | reload | reconcileClusters => cases calm
  | reconcileTopics =>
    obtain ⟨_, _, _, _, _, _, rfl⟩ := effect.rest
    exact fun _ held => held
  | reclaim =>
    intro id held
    obtain ⟨name, slot, active | retires, rfl⟩ := Zone.mem_owned.mp held
    · obtain ⟨_, _, _, _, _, _, rfl⟩ := effect.rest
      exact Zone.mem_owned.mpr ⟨name, slot, .inl active, rfl⟩
    · rw [effect.retiring, NameTable.find?_filter] at retires
      exact Zone.mem_owned.mpr
        ⟨name, slot, .inr (Option.filter_eq_some_iff.mp retires).1, rfl⟩
  | dispatch batch =>
    obtain ⟨_, _, _, _, _, rfl⟩ := effect.rest
    exact fun _ held => held
  | close =>
    obtain ⟨_, _, _, _, _, _, rfl⟩ := effect.rest
    exact nofun

/-- Nobody starts, stops or holds a producer again that nobody holds. -/
theorem Errand.releases {errand : Errand} {before after : Zone}
    (effect : errand.Effect before after) (sound : before.Sound) {id : ProducerId}
    {life : Producer.Life} (released : before.Released id life) :
    after.Released id life := by
  cases errand with
  | reload =>
    obtain ⟨middle, realigned, _, informed⟩ := effect
    exact informed.releases (realigned.releases released)
  | reconcileClusters => exact effect.releases released
  | reconcileTopics => exact effect.releases released
  | reclaim =>
    exact released.of_stopEach (sound.idsOf_nodup Zone.Sound.due_holds)
      (fun _ => Zone.Sound.due_owned) effect.fleet (Errand.owned_subset effect rfl)
  | dispatch batch =>
    obtain ⟨⟨_, _, _, _, _, rfl⟩, producers⟩ := effect
    exact released.of_lives rfl rfl (producers.map Prod.fst)
  | close =>
    exact released.of_stopEach sound.owned_nodup (fun _ held => held) effect.fleet
      (Errand.owned_subset effect rfl)

namespace Zone

/-- How a zone stands after a reload, when `first` producers had been built before some closing.
Nobody was started or stopped who was there before the reload; whoever was built by it is a producer
of a selected cluster that was asked to start once; and every selected cluster that does not fail is
served, by a producer that was built after the closing. -/
structure Restaffed (first : ProducerId) (before after : Zone) : Prop where
  spares : ∀ id producer, before.fleet.find? id = some producer →
    ∃ latter, after.fleet.find? id = some latter ∧ latter.life = producer.life
  builds : ∀ id producer, before.fleet.find? id = none → after.fleet.find? id = some producer →
    producer.cluster ∈ before.offered ∧ producer.startCalls = 1 ∧ producer.stopCalls = 0
  held : ∀ name slot, after.Holds name slot → first ≤ slot.producer
  serves : ∀ cluster ∈ before.offered, before.fleet.refuses cluster.name = false →
    ∃ slot producer, after.active.find? cluster.name = some slot ∧
      after.fleet.find? slot.producer = some producer ∧ producer.cluster.name = cluster.name ∧
      producer.phase = .started

namespace Realigned

variable {before after : Zone} (realigned : before.Realigned after)

include realigned

theorem spares {id : ProducerId} {producer : Producer}
    (found : before.fleet.find? id = some producer) : after.fleet.find? id = some producer := by
  unfold Realigned at realigned
  split at realigned
  · obtain ⟨_, _, _, _, rfl⟩ := realigned
    exact found
  · obtain ⟨summary, reconciled⟩ := realigned
    exact reconciled.find?_known found

theorem builds {id : ProducerId} {producer : Producer} (absent : before.fleet.find? id = none)
    (found : after.fleet.find? id = some producer) :
    producer.cluster ∈ before.offered ∧ producer.startCalls = 1 ∧ producer.stopCalls = 0 := by
  unfold Realigned at realigned
  split at realigned
  · obtain ⟨_, _, _, _, rfl⟩ := realigned
    cases absent.symm.trans found
  · obtain ⟨summary, reconciled⟩ := realigned
    rw [reconciled.fleet] at found
    obtain ⟨cluster, member, rfl | rfl⟩ :=
        find?_enlist_new (List.getElem?_eq_none_iff.mp absent) found <;>
      exact ⟨(List.mem_filter.mp member).1, rfl, rfl⟩

theorem serves {cluster : Cluster} (selected : cluster ∈ before.offered)
    (accepted : before.fleet.refuses cluster.name = false) :
    after.active.contains cluster.name = true := by
  rw [Realigned, if_neg (List.ne_nil_of_mem selected)] at realigned
  obtain ⟨summary, reconciled⟩ := realigned
  refine (reconciled.active _).mpr
    (mem_servable.mpr ⟨List.mem_map_of_mem selected, fun failed => ?_⟩)
  rw [(origin_failed_iff.mp failed).2.2] at accepted
  cases accepted

end Realigned
end Zone

namespace Course

/-- Whoever is held by nobody is left alone for good. -/
theorem released {between earlier : List Leg} {leg : Leg} {zone : Zone}
    (course : Course (between ++ leg :: earlier) zone) {id : ProducerId}
    {life : Producer.Life} (released : leg.after.Released id life) :
    zone.Released id life :=
  course.carries (·.Released id life) released (fun _ _ => Zone.Outside.releases)
    fun next _ sound effect => next.errand.releases effect sound

/-- A pool that held nobody takes nobody in hand until it is reconciled. -/
theorem owned_eq_nil {between earlier : List Leg} {leg : Leg} {zone : Zone}
    (course : Course (between ++ leg :: earlier) zone) (nobody : leg.after.owned = [])
    (calm : ∀ leg ∈ between, leg.errand.realigns = false) : zone.owned = [] := by
  refine course.carries (·.owned = []) nobody ?_ fun next member _ effect nobody => ?_
  · rintro _ _ ⟨⟨_, _, _, rfl⟩, _, _⟩ nobody
    exact nobody
  · refine List.eq_nil_iff_forall_not_mem.mpr fun id held => ?_
    have before := next.errand.owned_subset effect (calm next member) id held
    rw [nobody] at before
    cases before

/-- A closing comes to its end wherever a course has led. -/
theorem closes {legs : List Leg} {zone : Zone} (course : Course legs zone) :
    ∃ seen closed, (Zone.close.remembering []).runAlone Zone.passUntil zone =
        (some ((), seen), closed) ∧
      trace Zone.stopCalls seen closed = zone.owned ∧ zone.Closed closed ∧
      zone.Discharged closed ∧ Course (⟨.close, zone, closed⟩ :: legs) closed := by
  have sound := course.sound
  obtain ⟨⟨_, seen⟩, closed, ran, calls, _⟩ := Zone.close_halts sound []
  have alone := ran_of_remembering ran
  have ended := ((Zone.close_attains sound.idle).of_ran alone).1
  have failures := (Zone.close_fails sound.idle).of_ran alone
  have worked : Errand.close.work.runAlone Zone.passUntil zone = (some .nothing, closed) := by
    change (Zone.close.bind _).runAlone _ _ = _
    rw [runAlone_bind, alone]
    rfl
  exact ⟨seen, closed, ran, calls, ended, ended.discharged sound failures,
    course.errand .close worked⟩

/-- A reload comes to its end wherever a course has led. Where nobody holds the first producers,
those are left alone that there are, and the selected clusters are served by others. -/
theorem restaffs {legs : List Leg} {zone : Zone} (course : Course legs zone) {first : ProducerId}
    (old : ∀ id < first, ∃ life, zone.Released id life) :
    ∃ answer reloaded, Errand.reload.work.runAlone Zone.passUntil zone = (some answer, reloaded) ∧
      zone.Restaffed first reloaded := by
  obtain ⟨answer, reloaded, ran⟩ := course.completes .reload
  have onward := course.errand .reload ran
  have effect : Errand.reload.Effect zone reloaded := (onward.effect List.mem_cons_self).2
  obtain ⟨middle, realigned, _, informed⟩ := effect
  refine ⟨answer, reloaded, ran, ?_⟩
  constructor
  case spares => exact fun id producer found => informed.lives.later (realigned.spares found)
  case builds =>
    intro id producer absent found
    obtain ⟨former, known, same⟩ := informed.lives.earlier found
    obtain ⟨selected, starts, stops⟩ := realigned.builds absent known
    simp only [Producer.life, Prod.mk.injEq] at same
    exact ⟨same.1 ▸ selected, (congrArg UInt32.toNat same.2.2.1.symm).trans starts,
      (congrArg UInt32.toNat same.2.2.2.symm).trans stops⟩
  case held =>
    intro name slot holds
    refine Nat.le_of_not_lt fun older => ?_
    obtain ⟨life, released⟩ := old _ older
    exact (informed.releases (realigned.releases released)).1
      (Zone.mem_owned.mpr ⟨name, slot, holds, rfl⟩)
  case serves =>
    intro cluster selected accepted
    have active : reloaded.active = middle.active := by
      obtain ⟨_, _, _, _, _, _, rfl⟩ := informed.rest
      rfl
    obtain ⟨slot, found⟩ := NameTable.contains_iff.mp (realigned.serves selected accepted)
    rw [← active] at found
    obtain ⟨producer, known, named, started⟩ := onward.sound.backed _ slot (.inl found)
    exact ⟨slot, producer, found, known, named, started⟩

/-- Wherever a course has led, a closing comes to its end. It makes one stop call to each producer
that retires, then one to each that is active, and none to anybody else. Whichever stops fail, all
of these producers have stopped in the end, the failures are counted as many as there are, and the
tables, the routes and the topics are empty. Whatever happens afterwards, nobody who was there is
started or stopped again: another closing before the next reconciliation makes no call, and a reload
serves the selected clusters with producers that were built after the closing. -/
theorem close_stops_all {legs : List Leg} {start : Zone} (course : Course legs start) :
    ∃ seen closed, (Zone.close.remembering []).runAlone Zone.passUntil start =
        (some ((), seen), closed) ∧
      trace Zone.stopCalls seen closed = Zone.idsOf start.retiring ++ Zone.idsOf start.active ∧
      (Zone.idsOf start.retiring ++ Zone.idsOf start.active).Nodup ∧
      start.Discharged closed ∧
      Course (⟨.close, start, closed⟩ :: legs) closed ∧
      ∀ between zone, Course (between ++ ⟨.close, start, closed⟩ :: legs) zone →
        (∀ id producer, closed.fleet.find? id = some producer →
          ∃ latter, zone.fleet.find? id = some latter ∧ latter.life = producer.life) ∧
        ((∀ leg ∈ between, leg.errand.realigns = false) →
          ∃ seen again, (Zone.close.remembering []).runAlone Zone.passUntil zone =
            (some ((), seen), again) ∧ trace Zone.stopCalls seen again = []) ∧
        ∃ answer reloaded, Errand.reload.work.runAlone Zone.passUntil zone =
          (some answer, reloaded) ∧ zone.Restaffed start.fleet.producers.length reloaded := by
  obtain ⟨seen, closed, ran, calls, ended, discharged, goesOn⟩ := course.closes
  refine ⟨seen, closed, ran, calls, course.sound.owned_nodup, discharged, goesOn,
    fun between zone later => ?_⟩
  have nobody : closed.owned = [] := by
    rw [Zone.owned, discharged.active, discharged.retiring]
    rfl
  have released : ∀ id producer, closed.fleet.find? id = some producer →
      closed.Released id producer.life := fun id producer found =>
    ⟨by rw [nobody]; exact List.not_mem_nil, by rw [found, Option.map_some]⟩
  refine ⟨fun id producer found => ?_, fun calm => ?_, ?_⟩
  · exact Option.map_eq_some_iff.mp (later.released (released id producer found)).2
  · obtain ⟨seen, again, ran, calls, _⟩ := later.closes
    exact ⟨seen, again, ran, calls.trans (later.owned_eq_nil nobody calm)⟩
  · refine later.restaffs fun id old => ?_
    obtain ⟨latter, found⟩ : ∃ latter, closed.fleet.find? id = some latter := by
      rw [ended.fleet]
      exact Fleet.stopEach_later (List.getElem?_eq_getElem old)
    exact ⟨_, later.released (released id latter found)⟩

/-- One of two clusters retires, and its producer begins to fail its stop. -/
def retreat : List Leg × Zone :=
  let (legs, zone) := reloads blank [
    { clusters := [{ name := "A" }, { name := "B" }] }, { clusters := [{ name := "B" }] }]
  (legs, zone.switch 0 false true)

private theorem retreat_course : Course retreat.1 retreat.2 := by
  have reloaded := of_reloads blank_built rfl [
    { clusters := [{ name := "A" }, { name := "B" }] }, { clusters := [{ name := "B" }] }]
  exact reloaded.outside (Zone.switch_outside 0 false true reloaded.sound.idle.readable)

/-- A closing asks the producer that retires before the active one, and its failure does not keep it
from going on. The next reload serves the cluster with a third producer. -/
theorem close_stops_all_of_retreat : ∃ seen closed,
    (Zone.close.remembering []).runAlone Zone.passUntil retreat.2 = (some ((), seen), closed) ∧
      trace Zone.stopCalls seen closed = [0, 1] ∧ closed.tally.stopFailures = 1 ∧
      ∃ answer reloaded, Errand.reload.work.runAlone Zone.passUntil closed =
          (some answer, reloaded) ∧
        ∃ slot, reloaded.active.find? "B" = some slot ∧ 2 ≤ slot.producer := by
  obtain ⟨seen, closed, ran, calls, _, discharged, course, later⟩ := close_stops_all retreat_course
  obtain ⟨_, _, answer, reloaded, reran, restaffed⟩ := later [] closed course
  have ends : closed = (Zone.close.runAlone Zone.passUntil retreat.2).2 := by
    rw [ran_of_remembering ran]
  obtain ⟨slot, _, found, _⟩ := restaffed.serves { name := "B" } (by rw [ends]; decide)
    (by rw [ends]; rfl)
  exact ⟨seen, closed, ran, calls.trans (by decide), discharged.failures.trans (by decide),
    answer, reloaded, reran, slot, found, restaffed.held "B" slot (.inl found)⟩

end Course
end ClusterPool
