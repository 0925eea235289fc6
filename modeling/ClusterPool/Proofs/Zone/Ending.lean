import ClusterPool.Proofs.Zone.Reconciliation
import ClusterPool.Zone.Retire

/-! What becomes of producers whose time is over, when nothing else goes on in the zone: those that
are reclaimed from retirement, and all of them when the pool closes. -/
namespace ClusterPool.Zone
open Program

private theorem stopProducer_attains (cluster : String) (id : ProducerId) (role : Role)
    (zone : Zone) :
    (stopProducer cluster id role).Attains passUntil (fun stop after => OnlyStaff zone after ∧
      (stop.result, after.fleet) = zone.fleet.stop id ∧ after.tally = zone.tally) zone := by
  refine attains_bind.mpr (attains_perform.mpr (attains_bind.mpr (attains_get.mpr
    (attains_bind.mpr (attains_rest _ fun elapsed => ?_)))))
  exact attains_done.mpr ⟨⟨_, _, _, _, rfl⟩, rfl, rfl⟩

theorem reportStop_rest (stop : StopReport) (zone : Zone) :
    ∃ tally journal, zone.reportStop stop = { zone with tally, journal } := by
  unfold reportStop
  split <;> exact ⟨_, _, rfl⟩

theorem settle_rest (stop : Option StopReport) (zone : Zone) :
    ∃ tally journal, zone.settle stop = { zone with tally, journal } := by
  unfold settle
  split
  · exact reportStop_rest _ zone
  · exact ⟨_, _, rfl⟩

private theorem reclaimEach_attains (entries : List (String × Slot)) (zone : Zone) :
    (each reclaimOne entries).Attains passUntil (fun _ after => OnlyStaff zone after ∧
      after.fleet = zone.fleet.stopEach (entries.map (·.2.producer))) zone := by
  induction entries generalizing zone with
  | nil => exact attains_done.mpr ⟨.refl zone, rfl⟩
  | cons entry rest ih =>
    refine attains_bind.mpr (attains_bind.mpr
      ((stopProducer_attains entry.1 entry.2.producer .expired zone).mono ?_))
    rintro stop stopped ⟨staff, halts, _⟩
    have fleet : stopped.fleet = (zone.fleet.stop entry.2.producer).2 := congrArg Prod.snd halts
    obtain ⟨tally, journal, reported⟩ := reportStop_rest stop stopped
    refine attains_modify.mpr ((ih _).mono ?_)
    rintro _ after ⟨later, others⟩
    rw [reported] at later others
    refine ⟨staff.trans (OnlyStaff.trans ⟨_, _, _, _, rfl⟩ later), others.trans ?_⟩
    change stopped.fleet.stopEach _ = _
    rw [fleet]
    rfl

/-- What is due to be reclaimed from a zone now. -/
def due (zone : Zone) : Holdings :=
  zone.retiring.filter fun _ slot => Holdings.isDue zone.clock.now zone.settings.graceMillis slot

/-- How a zone stands after everything that was due was reclaimed. -/
structure Reclaimed (before after : Zone) : Prop where
  rest : ∃ retiring fleet tally journal bookkeeping elapsed, after =
    { before with
      retiring, fleet, tally, journal, bookkeeping, clock := { before.clock with elapsed } }
  retiring : after.retiring = before.retiring.filter fun _ slot =>
    !Holdings.isDue before.clock.now before.settings.graceMillis slot
  fleet : after.fleet = before.fleet.stopEach (idsOf before.due)

theorem Reclaimed.topics {before after : Zone} (reclaimed : Reclaimed before after) :
    after.topics = before.topics := by
  obtain ⟨_, _, _, _, _, _, rfl⟩ := reclaimed.rest
  rfl

/-- A reclaiming that nobody comes in between answers the clusters of which something was due. -/
theorem reclaim_attains {zone : Zone} (idle : zone.Idle) :
    reclaim.Attains passUntil (fun names after =>
      names = zone.due.names ∧ Reclaimed zone after ∧ after.Idle) zone := by
  -- The part behind the gate, for a table that is empty and for one that is not.
  have inside : (bookGate.inside do
      if (← .get).retiring.isEmpty then return .empty
      let now ← readClock
      let due ← .perform (takeDue now)
      Program.each reclaimOne due.entries
      return due : Program Zone Holdings).Attains passUntil
      (fun due after => due = zone.due ∧ Reclaimed zone after ∧ after.Idle) zone := by
    apply (Gate.attains_inside bookGate_lawful idle.book).mpr
    refine attains_bind.mpr (attains_get.mpr ?_)
    split
    · rename_i empty
      have nothing : zone.retiring = .empty :=
        NameTable.eq_empty_of_find? (NameTable.isEmpty_iff.mp empty)
      have noneDue : zone.due = .empty := by
        rw [due, nothing]
        rfl
      refine attains_done.mpr ⟨noneDue.symm, ⟨⟨_, _, _, _, _, _, rfl⟩, ?_, ?_⟩, idle.reload,
        leave_enter_isFree idle.book, idle.readable⟩
      · change zone.retiring = _
        rw [nothing]
        rfl
      · change zone.fleet = _
        rw [noneDue]
        rfl
    · refine attains_bind.mpr ((attains_readClock (by exact idle.readable)).mpr
        (attains_bind.mpr (attains_perform.mpr (attains_bind.mpr
          ((reclaimEach_attains _ _).mono ?_)))))
      rintro _ after ⟨⟨_, _, _, _, rfl⟩, fleet⟩
      refine attains_done.mpr ⟨rfl, ⟨⟨_, _, _, _, _, _, rfl⟩, rfl, fleet⟩, idle.reload,
        leave_enter_isFree idle.book, idle.readable⟩
  refine attains_bind.mpr (inside.mono ?_)
  rintro due after ⟨rfl, reclaimed, free⟩
  split
  · rename_i empty
    have none : zone.due.names = [] := by
      rw [NameTable.names, List.isEmpty_iff.mp empty]
      rfl
    exact attains_done.mpr ⟨none.symm, reclaimed, free⟩
  · obtain ⟨rest, retiring, fleet⟩ := reclaimed
    obtain ⟨_, _, _, _, _, _, rfl⟩ := rest
    exact attains_bind.mpr (attains_modify.mpr (attains_done.mpr
      ⟨rfl, ⟨⟨_, _, _, _, _, _, rfl⟩, retiring, fleet⟩, free.reload, free.book, free.readable⟩))

/-- The producer reports a failure when it is stopped. -/
def failsStop (zone : Zone) (id : ProducerId) : Bool :=
  (zone.fleet.find? id).any fun producer => producer.failsStop

/-- How many failures there are to be counted when a stop is reported. -/
private def unreported (last : Option StopReport) : UInt64 :=
  if last.any fun stop => !stop.result.toBool then 1 else 0

private theorem settle_failures (last : Option StopReport) (zone : Zone) :
    (zone.settle last).tally.stopFailures = zone.tally.stopFailures + unreported last := by
  rcases last with _ | ⟨cluster, role, fault | _⟩
  · exact (UInt64.add_zero _).symm
  · rfl
  · exact (UInt64.add_zero _).symm

/-- How a zone stands after these producers were stopped in turn. The last stop before them has been
reported, and the last one of them is yet to be. -/
private structure Halted (ids : List ProducerId) (last later : Option StopReport)
    (before after : Zone) : Prop where
  fleet : after.fleet = before.fleet.stopEach ids
  flags : after.failsStop = before.failsStop
  failures : after.tally.stopFailures + unreported later =
    before.tally.stopFailures + unreported last + .ofNat (ids.countP before.failsStop)

namespace Halted

private theorem nil (last : Option StopReport) (zone : Zone) : Halted [] last last zone zone :=
  ⟨rfl, rfl, (UInt64.add_zero _).symm⟩

private theorem append {early late : List ProducerId} {last between later : Option StopReport}
    {before middle after : Zone} (first : Halted early last between before middle)
    (second : Halted late between later middle after) :
    Halted (early ++ late) last later before after where
  fleet := by
    rw [second.fleet, first.fleet, Fleet.stopEach, Fleet.stopEach, Fleet.stopEach,
      List.foldl_append]
  flags := second.flags.trans first.flags
  failures := by
    rw [second.failures, first.failures, first.flags, List.countP_append, UInt64.ofNat_add,
      UInt64.add_assoc]

/-- A stop fails if the producer fails it, which does not depend on what was stopped before. -/
private theorem single {id : ProducerId} {last : Option StopReport} {stop : StopReport}
    {before after : Zone} (halts : (stop.result, after.fleet) = before.fleet.stop id)
    (tally : after.tally = (before.settle last).tally) :
    Halted [id] last (some stop) before after := by
  have result : stop.result = (before.fleet.stop id).1 := congrArg Prod.fst halts
  have fleet : after.fleet = (before.fleet.stop id).2 := congrArg Prod.snd halts
  refine ⟨fleet, funext fun other => ?_, ?_⟩
  · have same : Fleet.Alike (·.failsStop) before.fleet after.fleet := by
      rw [fleet, Fleet.stop_updates]
      exact Fleet.update_alike _ _ fun producer => producer.stop_fails.2
    simpa [failsStop, Option.any_map] using congrArg (Option.any fun fails => fails) (same other)
  · have failed : unreported (some stop) = .ofNat ([id].countP before.failsStop) := by
      rw [unreported, Option.any_some, result, Fleet.stop, List.countP_singleton, failsStop]
      cases before.fleet.find? id with
      | none => rfl
      | some producer => cases fails : producer.failsStop <;> simp [producer.stop_fails.1, fails]
    rw [tally, settle_failures, failed]

end Halted

private theorem stopAll_attains (role : Role) (last : Option StopReport)
    (entries : List (String × Slot)) (zone : Zone) :
    (stopAll role last entries).Attains passUntil (fun later after => OnlyStaff zone after ∧
      Halted (entries.map (·.2.producer)) last later zone after) zone := by
  induction entries generalizing last zone with
  | nil => exact attains_done.mpr ⟨.refl zone, .nil last zone⟩
  | cons entry rest ih =>
    obtain ⟨tally, journal, settled⟩ := settle_rest last zone
    refine attains_bind.mpr (attains_modify.mpr (attains_bind.mpr
      ((stopProducer_attains entry.1 entry.2.producer role _).mono ?_)))
    rintro stop stopped ⟨staff, halts, counted⟩
    have one : Halted [entry.2.producer] last (some stop) zone stopped :=
      .single (by rw [halts, settled]) counted
    rw [settled] at staff
    apply (ih _ _).mono
    rintro later after ⟨others, halted⟩
    exact ⟨(OnlyStaff.trans ⟨_, _, _, _, rfl⟩ staff).trans others, one.append halted⟩

/-- A table without its first entry. -/
theorem erase_first {table : Holdings} {first : String × Slot}
    {rest : List (String × Slot)} (entries : table.entries = first :: rest) :
    table.find? first.1 = some first.2 ∧ (table.erase first.1).entries = rest := by
  obtain ⟨below, _⟩ := List.pairwise_cons.mp (entries ▸ table.increasing)
  refine ⟨NameTable.find?_of_mem (by rw [entries]; exact List.mem_cons_self), ?_⟩
  change table.entries.filter (fun entry => entry.1 != first.1) = rest
  rw [entries, List.filter_cons_of_neg (by simp)]
  refine List.filter_eq_self.mpr fun entry member => bne_iff_ne.mpr fun same => ?_
  exact String.lt_irrefl first.1 (same ▸ below entry member)

/-- Stopping the active producers takes each out of the table, until none is left. -/
private theorem stopActive_attains (last : Option StopReport) (entries : List (String × Slot))
    (zone : Zone) (all : zone.active.entries = entries) :
    (stopActive last (entries.map (·.1))).Attains passUntil
      (fun later after => OnlyStaff { zone with active := .empty } after ∧
        Halted (entries.map (·.2.producer)) last later zone after) zone := by
  induction entries generalizing last zone with
  | nil =>
    have nothing : zone.active = .empty := by
      cases active : zone.active
      cases active ▸ all
      rfl
    refine attains_done.mpr ⟨?_, .nil last zone⟩
    rw [← nothing]
    exact .refl zone
  | cons entry rest ih =>
    obtain ⟨found, fewer⟩ := erase_first all
    have taken : takeActive entry.1 zone =
        ([entry], { zone with active := zone.active.erase entry.1 }) := by
      simp [takeActive, Holdings.take?, found]
    refine attains_bind.mpr (attains_perform.mpr ?_)
    rw [taken]
    refine attains_bind.mpr ((stopAll_attains .active last [entry] _).mono ?_)
    rintro between stopped ⟨⟨_, _, _, _, rfl⟩, halted⟩
    have one : Halted [entry.2.producer] last between zone _ :=
      ⟨halted.fleet, halted.flags, halted.failures⟩
    apply (ih between _ fewer).mono
    rintro later after ⟨⟨_, _, _, _, rfl⟩, others⟩
    exact ⟨⟨_, _, _, _, rfl⟩, one.append others⟩

/-- How a zone stands after its pool was closed. -/
structure Closed (before after : Zone) : Prop where
  rest : ∃ fleet rotation tally journal bookkeeping elapsed, after =
    { before with
      active := .empty, retiring := .empty, topics := .empty
      fleet, rotation, tally, journal, bookkeeping, clock := { before.clock with elapsed } }
  routes : after.rotation.names = []
  fleet : after.fleet = before.fleet.stopEach (idsOf before.retiring ++ idsOf before.active)

private theorem close_ends {zone : Zone} (idle : zone.Idle) :
    close.Attains passUntil (fun _ after => (Closed zone after ∧ after.Idle) ∧
      after.tally.stopFailures = zone.tally.stopFailures +
        .ofNat ((idsOf zone.retiring ++ idsOf zone.active).countP zone.failsStop)) zone := by
  unfold close beginClose
  simp only [bind_eq_bind, Program.bind_assoc, attains_bind]
  refine (Gate.attains_enter bookGate_lawful idle.book).mpr (attains_perform.mpr ?_)
  apply (stopAll_attains .retiring none _ _).mono
  rintro between retired ⟨retirement, retires⟩
  refine attains_get.mpr ((stopActive_attains between retired.active.entries retired rfl).mono ?_)
  rintro last stopped ⟨staff, stops⟩
  have active : retired.active = zone.active := by
    obtain ⟨_, _, _, _, rfl⟩ := retirement
    rfl
  rw [active] at stops
  have first : Halted (idsOf zone.retiring) none between zone retired :=
    ⟨retires.fleet, retires.flags, retires.failures⟩
  obtain ⟨fleet, _, failures⟩ := first.append stops
  have settles := settle_failures last stopped
  obtain ⟨_, _, settled⟩ := settle_rest last stopped
  refine attains_bind.mpr (attains_modify.mpr (attains_bind.mpr (attains_modify.mpr
    (attains_bind.mpr (attains_modify.mpr (attains_modify.mpr ?_))))))
  rw [failures, settled] at settles
  rw [settled]
  obtain ⟨_, _, _, _, rfl⟩ := retirement
  obtain ⟨_, _, _, _, rfl⟩ := staff
  refine ⟨⟨⟨⟨_, _, _, _, _, _, rfl⟩, rfl, fleet⟩, idle.reload, leave_enter_isFree idle.book,
    idle.readable⟩, settles.trans ?_⟩
  exact congrArg (· + _) (UInt64.add_zero _)

theorem close_attains {zone : Zone} (idle : zone.Idle) :
    close.Attains passUntil (fun _ after => Closed zone after ∧ after.Idle) zone :=
  (close_ends idle).mono fun _ _ ends => ends.1

/-- A closing counts the stops that fail. -/
theorem close_fails {zone : Zone} (idle : zone.Idle) :
    close.Attains passUntil (fun _ after => after.tally.stopFailures = zone.tally.stopFailures +
      .ofNat ((idsOf zone.retiring ++ idsOf zone.active).countP zone.failsStop)) zone :=
  (close_ends idle).mono fun _ _ ends => ends.2

end ClusterPool.Zone
