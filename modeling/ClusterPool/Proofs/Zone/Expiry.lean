import ClusterPool.Proofs.Grace
import ClusterPool.Proofs.Zone.Ownership

/-! When producers are stopped. Every producer that retires carries the reading of the clock at
which it last did. A reclaiming stops those whose grace period has passed since then and no others,
and apart from a closing nothing else stops a producer of the zone. -/
namespace ClusterPool
open Program

/-- What the clock read when a producer last went from the active clusters into retirement. -/
def retiredAt (id : ProducerId) : List Leg → Option Stamp
  | [] => none
  | leg :: earlier =>
    if id ∈ Zone.idsOf leg.before.active ∧ id ∈ Zone.idsOf leg.after.retiring then
      some leg.after.clock.now
    else retiredAt id earlier

namespace Zone

/-- The grace period has passed since a producer last retired, by exact arithmetic. -/
def Overdue (legs : List Leg) (zone : Zone) (id : ProducerId) : Prop :=
  ∃ stamp, retiredAt id legs = some stamp ∧
    zone.settings.graceMillis.toInt ≤ zone.clock.now.toInt - stamp.toInt

/-- How often a producer was asked to stop. -/
def stops (zone : Zone) (id : ProducerId) : UInt32 :=
  ((zone.fleet.find? id).map (·.stops)).getD 0

/-- What retires after a reconciliation retired before, or was active and now bears the reading of
the clock. -/
theorem Realigned.ledger {before after : Zone} (realigned : before.Realigned after) {name : String}
    {slot : Slot} (retires : after.retiring.find? name = some slot) :
    before.retiring.find? name = some slot ∨
      (slot.producer ∈ idsOf before.active ∧ slot.since = after.clock.now) := by
  unfold Realigned at realigned
  split at realigned
  · obtain ⟨_, _, _, _, rfl⟩ := realigned
    exact .inl retires
  · obtain ⟨summary, reconciled⟩ := realigned
    obtain ⟨_, ⟨former, active, rfl⟩ | earlier⟩ := reconciled.ledgerSource retires
    · exact .inr ⟨mem_idsOf.mpr ⟨name, former, active, rfl⟩, rfl⟩
    · exact .inl earlier

/-- A reconciliation stops nobody, and nobody that it builds has been stopped. -/
theorem Realigned.stops_eq {before after : Zone} (realigned : before.Realigned after)
    (id : ProducerId) : after.stops id = before.stops id := by
  unfold Realigned at realigned
  split at realigned
  · obtain ⟨_, _, _, _, rfl⟩ := realigned
    rfl
  · obtain ⟨summary, reconciled⟩ := realigned
    by_cases old : id < before.fleet.producers.length
    · rw [stops, reconciled.find?_earlier old, ← stops]
    · have new := Nat.le_of_not_lt old
      have absent : before.fleet.find? id = none := List.getElem?_eq_none new
      rw [stops, stops, absent]
      cases found : after.fleet.find? id with
      | none => rfl
      | some producer =>
        rw [reconciled.fleet] at found
        obtain ⟨cluster, _, rfl | rfl⟩ := find?_enlist_new new found <;> rfl

/-- Whatever leaves the lives of the producers alone stops nobody. -/
theorem stops_of_lives {before after : Zone}
    (lives : Fleet.Alike Producer.life before.fleet after.fleet) (id : ProducerId) :
    after.stops id = before.stops id := by
  have same := lives.map (fun life => life.2.2.2) id
  exact congrArg (·.getD 0) same

end Zone

namespace Errand

variable {errand : Errand} {before after : Zone}

/-- What retires after an errand retired before, or was active and now bears the reading of the
clock. -/
theorem ledger (effect : errand.Effect before after) {name : String} {slot : Slot}
    (retires : after.retiring.find? name = some slot) :
    before.retiring.find? name = some slot ∨
      (slot.producer ∈ Zone.idsOf before.active ∧ slot.since = after.clock.now) := by
  cases errand with
  | reload =>
    obtain ⟨middle, realigned, _, ⟨_, _, _, _, _, _, rfl⟩, _, _⟩ := effect
    exact realigned.ledger retires
  | reconcileClusters => exact effect.ledger retires
  | reconcileTopics =>
    obtain ⟨_, _, _, _, _, _, rfl⟩ := effect.rest
    exact .inl retires
  | reclaim =>
    rw [effect.retiring, NameTable.find?_filter] at retires
    exact .inl (Option.filter_eq_some_iff.mp retires).1
  | dispatch batch =>
    obtain ⟨_, _, _, _, _, rfl⟩ := effect.rest
    exact .inl retires
  | close =>
    obtain ⟨_, _, _, _, _, _, rfl⟩ := effect.rest
    cases retires

/-- Only a reclaiming and a closing stop producers. -/
theorem stops_eq (effect : errand.Effect before after) (keeps : errand ≠ .reclaim)
    (stays : errand ≠ .close) (id : ProducerId) : after.stops id = before.stops id := by
  cases errand with
  | reload =>
    obtain ⟨middle, realigned, _, informed⟩ := effect
    exact (Zone.stops_of_lives informed.lives id).trans (realigned.stops_eq id)
  | reconcileClusters => exact effect.stops_eq id
  | reconcileTopics => exact Zone.stops_of_lives effect.lives id
  | reclaim => exact absurd rfl keeps
  | dispatch batch => exact Zone.stops_of_lives (effect.producers.map Prod.fst) id
  | close => exact absurd rfl stays

end Errand

namespace Zone

/-- Every entry of retirement bears the reading at which its producer last retired. -/
def Stamped (legs : List Leg) (zone : Zone) : Prop :=
  ∀ name slot, zone.retiring.find? name = some slot →
    retiredAt slot.producer legs = some slot.since

namespace Stamped

theorem errand {legs : List Leg} {before after : Zone} (stamped : Stamped legs before)
    (sound : before.Sound) {errand : Errand} (effect : errand.Effect before after) :
    Stamped (⟨errand, before, after⟩ :: legs) after := by
  intro name slot retires
  rcases errand.ledger effect retires with earlier | ⟨active, stamp⟩
  · have inactive := sound.retires_inactive earlier
    rw [retiredAt, if_neg fun retired => inactive retired.1]
    exact stamped name slot earlier
  · have member := mem_idsOf.mpr ⟨name, slot, retires, rfl⟩
    rw [retiredAt, if_pos ⟨active, member⟩, stamp]

/-- An entry is due by its own stamp if its producer is overdue. -/
theorem isDue_iff {legs : List Leg} {zone : Zone} (stamped : Stamped legs zone) {name : String}
    {slot : Slot} (retires : zone.retiring.find? name = some slot) :
    Holdings.isDue zone.clock.now zone.settings.graceMillis slot = true ↔
      Overdue legs zone slot.producer := by
  rw [Holdings.isDue_iff zone.settings.graceMillis_nonneg, Overdue, stamped name slot retires]
  simp

theorem find?_due {legs : List Leg} {zone : Zone} (stamped : Stamped legs zone) {name : String}
    {slot : Slot} : zone.due.find? name = some slot ↔
      zone.retiring.find? name = some slot ∧ Overdue legs zone slot.producer :=
  Sound.find?_due.trans (and_congr_right stamped.isDue_iff)

end Stamped

/-- What is answered, stopped and taken out of retirement by a reclaiming, and that nothing else
happens to the producers, tables, routes and topics. -/
structure Expired (legs : List Leg) (before : Zone) (names : List String) (after : Zone) :
    Prop where
  increasing : names.Pairwise (· < ·)
  names : ∀ name, name ∈ names ↔ ∃ slot, before.retiring.find? name = some slot ∧
    Overdue legs before slot.producer
  retiring : ∀ name slot, after.retiring.find? name = some slot ↔
    before.retiring.find? name = some slot ∧ ¬Overdue legs before slot.producer
  stopped : ∀ id ∈ idsOf before.retiring, Overdue legs before id → ∃ producer,
    before.fleet.find? id = some producer ∧ producer.phase = .started ∧ producer.stops = 0 ∧
      after.fleet.find? id = some { producer with phase := .stopped, stops := 1 }
  others : ∀ id, ¬(id ∈ idsOf before.retiring ∧ Overdue legs before id) →
    after.fleet.find? id = before.fleet.find? id
  active : after.active = before.active
  rotation : after.rotation = before.rotation
  topics : after.topics = before.topics

/-- A reclaiming deals with exactly what is overdue. -/
theorem Reclaimed.expired {legs : List Leg} {before after : Zone}
    (reclaimed : Reclaimed before after) (sound : before.Sound) (stamped : Stamped legs before) :
    Expired legs before before.due.names after := by
  have due : ∀ id, id ∈ idsOf before.due ↔ id ∈ idsOf before.retiring ∧ Overdue legs before id := by
    intro id
    rw [mem_idsOf, mem_idsOf]
    constructor
    · rintro ⟨name, slot, found, rfl⟩
      obtain ⟨retires, overdue⟩ := stamped.find?_due.mp found
      exact ⟨⟨name, slot, retires, rfl⟩, overdue⟩
    · rintro ⟨⟨name, slot, retires, rfl⟩, overdue⟩
      exact ⟨name, slot, stamped.find?_due.mpr ⟨retires, overdue⟩, rfl⟩
  have producers := fun id => (congrArg (·.find? id) reclaimed.fleet).trans
    (Fleet.find?_stopEach _ (sound.idsOf_nodup Sound.due_holds) id)
  constructor
  case increasing => exact List.pairwise_map.mpr before.due.increasing
  case names =>
    intro name
    rw [NameTable.mem_names_iff, NameTable.contains_iff]
    exact exists_congr fun slot => stamped.find?_due
  case retiring =>
    intro name slot
    rw [reclaimed.retiring, NameTable.find?_filter, Option.filter_eq_some_iff]
    refine and_congr_right fun retires => ?_
    rw [Bool.not_eq_true', ← Bool.not_eq_true, stamped.isDue_iff retires]
  case stopped =>
    intro id retires overdue
    obtain ⟨name, slot, found, rfl⟩ := mem_idsOf.mp retires
    obtain ⟨producer, known, _, started⟩ := sound.backed name slot (.inr found)
    obtain ⟨settled, _, stops⟩ := sound.orderly _ producer known
    have never : producer.stops = 0 := by simp [stops, started]
    refine ⟨producer, known, started, never, ?_⟩
    rw [producers, if_pos ((due _).mpr ⟨retires, overdue⟩), known, Option.map_some,
      Producer.stop_stops settled, never]
    rfl
  case others =>
    intro id spared
    rw [producers, if_neg fun member => spared ((due id).mp member)]
  all_goals
    obtain ⟨_, _, _, _, _, _, rfl⟩ := reclaimed.rest
    rfl

end Zone

namespace Course

/-- The stamps in retirement are right wherever a course leads. -/
theorem stamped {legs : List Leg} {zone : Zone} (course : Course legs zone) :
    zone.Stamped legs := by
  induction course with
  | begin built _ =>
    obtain ⟨_, rfl⟩ := Zone.build_eq built
    exact nofun
  | outside _ change stamped =>
    obtain ⟨⟨_, _, _, rfl⟩, _, _⟩ := change
    exact stamped
  | errand errand course ran stamped =>
    exact stamped.errand course.sound ((course.errand errand ran).effect List.mem_cons_self).2

/-- Wherever a course leads, every producer in retirement bears the reading of the clock at which it
last retired. A reclaiming comes to its end: it stops each of those whose grace period has passed
since then, once, whether or not the stop fails, takes them out of retirement and answers their
clusters in increasing order; everything else stays as it is. And on the way there nothing but
reclaimings and closings has stopped a producer. -/
theorem reclaim_stops_expired {legs : List Leg} {zone : Zone} (course : Course legs zone) :
    zone.Stamped legs ∧
    (∃ names after, Errand.reclaim.work.runAlone Zone.passUntil zone =
      (some (.names names), after) ∧ Zone.Expired legs zone names after) ∧
    ∀ leg ∈ legs, leg.errand ≠ .reclaim → leg.errand ≠ .close →
      ∀ id, leg.after.stops id = leg.before.stops id := by
  refine ⟨course.stamped, ?_, fun leg member => Errand.stops_eq (course.effect member).2⟩
  obtain ⟨_, after, ran, rfl, reclaimed, _⟩ := Zone.reclaim_attains course.sound.idle
  refine ⟨_, after, ?_, reclaimed.expired course.sound course.stamped⟩
  change (Program.bind _ _).runAlone _ _ = _
  rw [runAlone_bind, ran]
  rfl

/-- A cluster is replaced by another one at the stamp 0. A minute later its producer fails to
stop. -/
def farewell : List Leg × Zone :=
  let (legs, zone) := reloads blank [
    { clusters := [{ name := "A" }], topics := .empty },
    { clusters := [{ name := "B" }], topics := .empty }]
  (legs, { zone.switch 0 false true with clock := zone.clock.set 60000 })

private theorem farewell_course : Course farewell.1 farewell.2 := by
  have replaced := of_reloads blank_built rfl [
    { clusters := [{ name := "A" }], topics := .empty },
    { clusters := [{ name := "B" }], topics := .empty }]
  have hindered := replaced.outside (Zone.switch_outside 0 false true rfl)
  exact hindered.outside (.of_producers ⟨_, _, _, rfl⟩ rfl rfl)

/-- Its grace period is over to the millisecond, and the producer is stopped once. -/
theorem reclaim_stops_expired_of_farewell : ∃ after,
    Errand.reclaim.work.runAlone Zone.passUntil farewell.2 = (some (.names ["A"]), after) ∧
      (after.fleet.find? 0).map (fun producer => (producer.phase, producer.stopCalls)) =
        some (.stopped, 1) := by
  obtain ⟨stamped, ⟨names, after, ran, expired⟩, _⟩ := reclaim_stops_expired farewell_course
  have overdue : farewell.2.Overdue farewell.1 0 :=
    ⟨0, stamped "A" ⟨0, 0⟩ rfl, by decide⟩
  obtain ⟨producer, _, _, _, stopped⟩ := expired.stopped 0 (by decide) overdue
  have answer : (Errand.reclaim.work.runAlone Zone.passUntil farewell.2).1 =
      some (.names ["A"]) := rfl
  rw [ran] at answer
  cases answer
  exact ⟨after, ran, by rw [stopped]; rfl⟩

end Course
end ClusterPool
