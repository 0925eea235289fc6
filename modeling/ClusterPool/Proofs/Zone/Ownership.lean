import ClusterPool.Proofs.Zone.Course

/-! Who holds which producer. In every course of a zone a producer that has started is held by one
entry of one table, under the name of its cluster, until it is stopped; and every other producer is
held by none. -/
namespace ClusterPool

/-- Between two errands no stop of a producer is under way; it was started once, and stopped once
if it has stopped. -/
structure Producer.Orderly (producer : Producer) : Prop where
  settled : producer.phase ≠ .stopping
  starts : producer.starts = 1
  stops : producer.stops = if producer.phase = .stopped then 1 else 0

namespace Producer.Orderly

theorem startCalls {producer : Producer} (orderly : producer.Orderly) : producer.startCalls = 1 := by
  rw [Producer.startCalls, orderly.starts]
  rfl

theorem stopCalls {producer : Producer} (orderly : producer.Orderly) :
    producer.stopCalls = if producer.phase = .stopped then 1 else 0 := by
  rw [Producer.stopCalls, orderly.stops]
  split <;> rfl

end Producer.Orderly

namespace Zone

/-- One of the tables holds a slot under a name. -/
def Holds (zone : Zone) (name : String) (slot : Slot) : Prop :=
  zone.active.find? name = some slot ∨ zone.retiring.find? name = some slot

/-- The invariant of all courses. -/
structure Sound (zone : Zone) : Prop where
  idle : zone.Idle
  apart : zone.Apart
  backed : ∀ name slot, zone.Holds name slot → ∃ producer,
    zone.fleet.find? slot.producer = some producer ∧ producer.cluster.name = name ∧
      producer.phase = .started
  held : ∀ id producer, zone.fleet.find? id = some producer → producer.phase = .started →
    ∃ since, zone.Holds producer.cluster.name ⟨id, since⟩
  orderly : ∀ id producer, zone.fleet.find? id = some producer → producer.Orderly

/-- Hearing of topics changes nobody's life. -/
theorem Informed.lives {before after : Zone} {current : NameSet}
    (informed : Informed current before after) :
    Fleet.Alike Producer.life before.fleet after.fleet := by
  intro id
  rw [informed.fleet]
  split
  · rw [Option.map_map]
    congr 1
    exact funext fun producer => Fleet.inform_life _ _ producer
  · rfl

/-- The producers that are held, those that retire first. -/
def owned (zone : Zone) : List ProducerId := idsOf zone.retiring ++ idsOf zone.active

theorem mem_owned {zone : Zone} {id : ProducerId} :
    id ∈ zone.owned ↔ ∃ name slot, zone.Holds name slot ∧ slot.producer = id := by
  rw [owned, List.mem_append, mem_idsOf, mem_idsOf]
  constructor
  · rintro (⟨name, slot, found, rfl⟩ | ⟨name, slot, found, rfl⟩)
    · exact ⟨name, slot, .inr found, rfl⟩
    · exact ⟨name, slot, .inl found, rfl⟩
  · rintro ⟨name, slot, found | found, rfl⟩
    · exact .inr ⟨name, slot, found, rfl⟩
    · exact .inl ⟨name, slot, found, rfl⟩

namespace Sound

/-- The invariant only looks at the tables and at the lives of the producers. -/
theorem of_lives {before after : Zone} (sound : before.Sound) (idle : after.Idle)
    (active : after.active = before.active) (retiring : after.retiring = before.retiring)
    (lives : Fleet.Alike Producer.life before.fleet after.fleet) : after.Sound := by
  have holds : ∀ name slot, after.Holds name slot ↔ before.Holds name slot := fun name slot => by
    rw [Holds, Holds, active, retiring]
  refine ⟨idle, ?_, ?_, ?_, ?_⟩
  · rw [Apart, active, retiring]
    exact sound.apart
  · intro name slot held
    obtain ⟨former, found, named, started⟩ := sound.backed name slot ((holds name slot).mp held)
    obtain ⟨producer, found, same⟩ := lives.later found
    simp only [Producer.life, Prod.mk.injEq] at same
    exact ⟨producer, found, same.1 ▸ named, same.2.1 ▸ started⟩
  · intro id producer found started
    obtain ⟨former, found, same⟩ := lives.earlier found
    simp only [Producer.life, Prod.mk.injEq] at same
    obtain ⟨since, held⟩ := sound.held id former found (same.2.1 ▸ started)
    exact ⟨since, (holds _ _).mpr (same.1 ▸ held)⟩
  · intro id producer found
    obtain ⟨former, found, same⟩ := lives.earlier found
    simp only [Producer.life, Prod.mk.injEq] at same
    obtain ⟨_, phase, starts, stops⟩ := same
    obtain ⟨settled, once, stopped⟩ := sound.orderly id former found
    exact ⟨phase ▸ settled, starts ▸ once, stops ▸ phase ▸ stopped⟩

/-- A producer that a reconciliation has built was started once and not stopped. -/
private theorem newcomer_orderly {zone : Zone} {topics : NameSet} {clusters : List Cluster}
    {id : ProducerId} {producer : Producer} (new : zone.fleet.producers.length ≤ id)
    (found : (zone.enlist topics clusters).find? id = some producer) : producer.Orderly := by
  obtain ⟨cluster, _, rfl | rfl⟩ := find?_enlist_new new found <;>
    exact ⟨by simp [Fleet.running, Fleet.launched, Fleet.begun], rfl,
      by simp [Fleet.running, Fleet.launched, Fleet.begun]⟩

/-- A reconciliation of the clusters keeps the invariant. -/
theorem reconcile {order : List Cluster} {before after : Zone} {summary : Summary}
    (sound : before.Sound) (reconciled : Reconciled order before summary after)
    (idle : after.Idle) : after.Sound := by
  constructor
  case idle => exact idle
  case apart =>
    intro name slot found
    obtain ⟨cluster, member, rfl, _⟩ := reconciled.source found
    rw [reconciled.retiring, if_pos (List.mem_map_of_mem member)]
  case backed =>
    rintro name slot (found | found)
    · obtain ⟨cluster, member, rfl, kept | ⟨_, former, retired, rfl⟩ | ⟨_, built⟩⟩ :=
        reconciled.source found
      · obtain ⟨producer, known, named, started⟩ := sound.backed _ slot (.inl kept)
        exact ⟨producer, reconciled.find?_known known, named, started⟩
      · obtain ⟨producer, known, named, started⟩ := sound.backed _ former (.inr retired)
        exact ⟨producer, reconciled.find?_known known, named, started⟩
      · exact ⟨_, built, rfl, rfl⟩
    · obtain ⟨_, ⟨former, active, rfl⟩ | retired⟩ := reconciled.ledgerSource found
      · obtain ⟨producer, known, named, started⟩ := sound.backed _ former (.inl active)
        exact ⟨producer, reconciled.find?_known known, named, started⟩
      · obtain ⟨producer, known, named, started⟩ := sound.backed _ slot (.inr retired)
        exact ⟨producer, reconciled.find?_known known, named, started⟩
  case held =>
    intro id producer found started
    by_cases old : id < before.fleet.producers.length
    · rw [reconciled.find?_earlier old] at found
      obtain ⟨since, holds⟩ := sound.held id producer found started
      by_cases inside : producer.cluster.name ∈ order.map (·.name)
      · rcases holds with active | retired
        · exact ⟨since, .inl (reconciled.kept _ inside _ active)⟩
        · have absent := sound.apart.inactive retired
          exact ⟨_, .inl (reconciled.rescued _ inside _ absent retired)⟩
      · have ledger := reconciled.retiring producer.cluster.name
        rw [if_neg inside] at ledger
        rcases holds with active | retired
        · rw [active] at ledger
          exact ⟨_, .inr ledger⟩
        · rw [sound.apart.inactive retired, retired] at ledger
          exact ⟨_, .inr ledger⟩
    · obtain ⟨since, active⟩ := reconciled.held id producer (Nat.le_of_not_lt old) found started
      exact ⟨since, .inl active⟩
  case orderly =>
    intro id producer found
    by_cases old : id < before.fleet.producers.length
    · rw [reconciled.find?_earlier old] at found
      exact sound.orderly id producer found
    · rw [reconciled.fleet] at found
      exact newcomer_orderly (Nat.le_of_not_lt old) found

/-- The producers of a table are as many as its clusters. -/
theorem idsOf_nodup {zone : Zone} (sound : zone.Sound) {table : Holdings}
    (within : ∀ name slot, table.find? name = some slot → zone.Holds name slot) :
    (idsOf table).Nodup := by
  refine List.pairwise_map.mpr (table.increasing.imp_of_mem ?_)
  rintro first second inFirst inSecond less same
  obtain ⟨_, found, named, _⟩ := sound.backed _ _ (within _ _ (NameTable.find?_of_mem inFirst))
  obtain ⟨_, again, also, _⟩ := sound.backed _ _ (within _ _ (NameTable.find?_of_mem inSecond))
  rw [same, again] at found
  cases found
  exact String.lt_irrefl second.1 ((named.symm.trans also) ▸ less)

/-- One name has one slot only. -/
theorem functional {zone : Zone} (sound : zone.Sound) {name : String} {one other : Slot}
    (holds : zone.Holds name one) (also : zone.Holds name other) : one = other := by
  rcases holds with active | retired <;> rcases also with active' | retired'
  · exact Option.some.inj (active.symm.trans active')
  · rw [sound.apart _ _ active] at retired'
    cases retired'
  · rw [sound.apart _ _ active'] at retired
    cases retired
  · exact Option.some.inj (retired.symm.trans retired')

/-- One producer is held under one name only, by one slot. -/
theorem unique {zone : Zone} (sound : zone.Sound) {first second : String} {one other : Slot}
    (holds : zone.Holds first one) (also : zone.Holds second other)
    (same : one.producer = other.producer) : first = second ∧ one = other := by
  obtain ⟨_, found, named, _⟩ := sound.backed _ _ holds
  obtain ⟨_, again, known, _⟩ := sound.backed _ _ also
  rw [same, again] at found
  cases found
  have names : first = second := named.symm.trans known
  subst names
  exact ⟨rfl, sound.functional holds also⟩

/-- A producer that retires is not active under any name. -/
theorem retires_inactive {zone : Zone} (sound : zone.Sound) {name : String} {slot : Slot}
    (retires : zone.retiring.find? name = some slot) : slot.producer ∉ idsOf zone.active := by
  intro active
  obtain ⟨other, twin, serves, same⟩ := mem_idsOf.mp active
  obtain ⟨rfl, rfl⟩ := sound.unique (.inl serves) (.inr retires) same
  rw [sound.apart _ _ serves] at retires
  cases retires

/-- Stopping producers and letting go of them keeps the invariant. -/
theorem stop {before after : Zone} (sound : before.Sound) (idle : after.Idle)
    {ids : List ProducerId} (once : ids.Nodup)
    (owned : ∀ id ∈ ids, ∃ name since, before.Holds name ⟨id, since⟩)
    (fleet : after.fleet = before.fleet.stopEach ids)
    (active : ∀ name slot, after.active.find? name = some slot ↔
      before.active.find? name = some slot ∧ slot.producer ∉ ids)
    (retiring : ∀ name slot, after.retiring.find? name = some slot ↔
      before.retiring.find? name = some slot ∧ slot.producer ∉ ids) : after.Sound := by
  have holds : ∀ name slot, after.Holds name slot ↔
      before.Holds name slot ∧ slot.producer ∉ ids := fun name slot => by
    rw [Holds, Holds, active, retiring, or_and_right]
  have found? : ∀ id, after.fleet.find? id = if id ∈ ids then
      (before.fleet.find? id).map fun producer => producer.stop.2
      else before.fleet.find? id := fun id => by rw [fleet, Fleet.find?_stopEach _ once]
  constructor
  case idle => exact idle
  case apart =>
    intro name slot found
    have gone := sound.apart name slot ((active name slot).mp found).1
    refine Option.eq_none_iff_forall_ne_some.mpr fun other also => ?_
    rw [((retiring name other).mp also).1] at gone
    cases gone
  case backed =>
    intro name slot held
    obtain ⟨held, spared⟩ := (holds name slot).mp held
    rw [found?, if_neg spared]
    exact sound.backed name slot held
  case held =>
    intro id producer found started
    rw [found?] at found
    split at found
    · obtain ⟨former, known, rfl⟩ := Option.map_eq_some_iff.mp found
      rw [Producer.stop_stops (sound.orderly id former known).settled] at started
      cases started
    · rename_i spared
      obtain ⟨since, held⟩ := sound.held id producer found started
      exact ⟨since, (holds _ _).mpr ⟨held, spared⟩⟩
  case orderly =>
    intro id producer found
    rw [found?] at found
    split at found
    · rename_i stopped
      obtain ⟨former, known, rfl⟩ := Option.map_eq_some_iff.mp found
      obtain ⟨name, since, held⟩ := owned id stopped
      obtain ⟨_, again, _, started⟩ := sound.backed name _ held
      rw [known] at again
      cases again
      obtain ⟨settled, starts, stops⟩ := sound.orderly id former known
      rw [Producer.stop_stops settled]
      exact ⟨by simp, starts, by simp [stops, started]⟩
    · exact sound.orderly id producer found

/-- What is due is what retires and has served its grace period. -/
theorem find?_due {zone : Zone} {name : String} {slot : Slot} :
    zone.due.find? name = some slot ↔ zone.retiring.find? name = some slot ∧
      Holdings.isDue zone.clock.now zone.settings.graceMillis slot = true := by
  rw [due, NameTable.find?_filter, Option.filter_eq_some_iff]

theorem due_holds {zone : Zone} (name : String) (slot : Slot)
    (found : zone.due.find? name = some slot) : zone.Holds name slot := .inr (find?_due.mp found).1

theorem due_owned {zone : Zone} {id : ProducerId} (due : id ∈ idsOf zone.due) :
    id ∈ zone.owned := by
  obtain ⟨name, slot, found, rfl⟩ := mem_idsOf.mp due
  exact mem_owned.mpr ⟨name, slot, due_holds name slot found, rfl⟩

/-- A reclaiming keeps the invariant: what it stops is what it takes out of retirement. -/
theorem reclaim {before after : Zone} (sound : before.Sound) (reclaimed : Reclaimed before after)
    (idle : after.Idle) : after.Sound := by
  have same : after.active = before.active := by
    obtain ⟨_, _, _, _, _, _, rfl⟩ := reclaimed.rest
    rfl
  refine sound.stop idle (sound.idsOf_nodup due_holds) ?_ reclaimed.fleet ?_ ?_
  · intro id member
    obtain ⟨name, slot, found, rfl⟩ := mem_idsOf.mp member
    exact ⟨name, slot.since, due_holds name slot found⟩
  · intro name slot
    rw [same]
    refine (and_iff_left_of_imp fun found stopped => ?_).symm
    obtain ⟨other, due, taken, alike⟩ := mem_idsOf.mp stopped
    exact sound.retires_inactive (find?_due.mp taken).1
      (mem_idsOf.mpr ⟨name, slot, found, alike.symm⟩)
  · intro name slot
    rw [reclaimed.retiring, NameTable.find?_filter, Option.filter_eq_some_iff]
    refine and_congr_right fun found => ?_
    rw [Bool.not_eq_true', ← Bool.not_eq_true]
    refine not_congr ⟨?_, ?_⟩
    · intro due
      exact mem_idsOf.mpr ⟨name, slot, find?_due.mpr ⟨found, due⟩, rfl⟩
    · intro stopped
      obtain ⟨other, due, taken, alike⟩ := mem_idsOf.mp stopped
      obtain ⟨rfl, rfl⟩ := sound.unique (due_holds other due taken) (.inr found) alike
      exact (find?_due.mp taken).2

/-- No producer is held twice. -/
theorem owned_nodup {zone : Zone} (sound : zone.Sound) : zone.owned.Nodup := by
  refine List.nodup_append.mpr ⟨sound.idsOf_nodup fun _ _ => .inr,
    sound.idsOf_nodup fun _ _ => .inl, ?_⟩
  rintro id inRetiring _ inActive rfl
  obtain ⟨name, slot, retires, rfl⟩ := mem_idsOf.mp inRetiring
  exact sound.retires_inactive retires inActive

/-- Whoever is held runs. -/
theorem owned_runs {zone : Zone} (sound : zone.Sound) {id : ProducerId} (held : id ∈ zone.owned) :
    ∃ producer, zone.fleet.find? id = some producer ∧ producer.phase = .started := by
  obtain ⟨name, slot, holds, rfl⟩ := mem_owned.mp held
  obtain ⟨producer, found, _, started⟩ := sound.backed name slot holds
  exact ⟨producer, found, started⟩

/-- A closing keeps the invariant: it stops whatever is held. -/
theorem close {before after : Zone} (sound : before.Sound) (closed : Closed before after)
    (idle : after.Idle) : after.Sound := by
  have active : after.active = .empty := by
    obtain ⟨_, _, _, _, _, _, rfl⟩ := closed.rest
    rfl
  have retiring : after.retiring = .empty := by
    obtain ⟨_, _, _, _, _, _, rfl⟩ := closed.rest
    rfl
  refine sound.stop idle sound.owned_nodup ?_ closed.fleet ?_ ?_
  · intro id member
    obtain ⟨name, slot, held, rfl⟩ := mem_owned.mp member
    exact ⟨name, slot.since, held⟩
  · intro name slot
    rw [active, NameTable.find?_empty]
    refine ⟨nofun, fun ⟨found, spared⟩ => absurd (mem_owned.mpr ⟨name, slot, .inl found, rfl⟩) spared⟩
  · intro name slot
    rw [retiring, NameTable.find?_empty]
    refine ⟨nofun, fun ⟨found, spared⟩ => absurd (mem_owned.mpr ⟨name, slot, .inr found, rfl⟩) spared⟩

theorem realign {before after : Zone} (sound : before.Sound) (realigned : before.Realigned after)
    (idle : after.Idle) : after.Sound := by
  unfold Realigned at realigned
  split at realigned
  · obtain ⟨_, _, _, _, rfl⟩ := realigned
    exact sound.of_lives idle rfl rfl (.refl _)
  · obtain ⟨summary, reconciled⟩ := realigned
    exact sound.reconcile reconciled idle

theorem inform {before after : Zone} {current : NameSet} (sound : before.Sound)
    (informed : Informed current before after) (idle : after.Idle) : after.Sound := by
  have lives := informed.lives
  obtain ⟨_, _, _, _, _, _, rfl⟩ := informed.rest
  exact sound.of_lives idle rfl rfl lives

/-- Every errand keeps the invariant. -/
theorem errand {before after : Zone} (sound : before.Sound) {errand : Errand}
    (effect : errand.Effect before after) (idle : after.Idle) : after.Sound := by
  cases errand with
  | reload =>
    obtain ⟨middle, realigned, free, informed⟩ := effect
    exact (sound.realign realigned free).inform informed idle
  | reconcileClusters => exact sound.realign effect idle
  | reconcileTopics => exact sound.inform effect idle
  | reclaim => exact sound.reclaim effect idle
  | dispatch batch =>
    obtain ⟨⟨_, _, _, _, _, rfl⟩, producers⟩ := effect
    exact sound.of_lives idle rfl rfl (producers.map Prod.fst)
  | close => exact sound.close effect idle

end Sound

theorem Outside.idle {before after : Zone} (change : before.Outside after) (idle : before.Idle) :
    after.Idle := by
  obtain ⟨⟨_, _, _, rfl⟩, readable, _⟩ := change
  exact ⟨idle.reload, idle.book, readable⟩

theorem Outside.lives {before after : Zone} (change : before.Outside after) :
    Fleet.Alike Producer.life before.fleet after.fleet := by
  obtain ⟨_, _, same⟩ := change.producers
  intro id
  rw [same, Option.map_map]
  rfl

/-- A zone that was just built holds nothing. -/
theorem build_sound {plan : Plan} {zone : Zone} (built : build plan = .ok zone)
    (readable : zone.clock.broken = false) : zone.Sound := by
  obtain ⟨_, rfl⟩ := build_eq built
  refine ⟨⟨rfl, rfl, readable⟩, nofun, ?_, nofun, nofun⟩
  rintro _ _ (found | found) <;> cases found

/-- The names of the entries, in either table, that hold a producer. -/
def holders (zone : Zone) (id : ProducerId) : List String :=
  ((zone.active.entries ++ zone.retiring.entries).filter fun entry => entry.2.producer == id).map
    (·.1)

private theorem mem_tables {zone : Zone} {entry : String × Slot} :
    entry ∈ zone.active.entries ++ zone.retiring.entries ↔ zone.Holds entry.1 entry.2 := by
  rw [List.mem_append, Holds, NameTable.find?_eq_some_iff, NameTable.find?_eq_some_iff]

namespace Sound

private theorem tables_nodup {zone : Zone} (sound : zone.Sound) :
    (zone.active.entries ++ zone.retiring.entries).Nodup := by
  have once : ∀ table : Holdings, table.entries.Nodup := fun table =>
    table.increasing.imp fun {first second} (less : first.1 < second.1) (same : first = second) =>
      String.lt_irrefl second.1 (same ▸ less)
  refine List.nodup_append.mpr ⟨once _, once _, ?_⟩
  rintro ⟨name, slot⟩ inActive _ inRetiring rfl
  have retires := NameTable.find?_of_mem inRetiring
  rw [sound.apart name slot (NameTable.find?_of_mem inActive)] at retires
  cases retires

/-- A producer that has started is held by exactly one entry, under its own cluster; any other
number is held by none. -/
theorem holders_eq {zone : Zone} (sound : zone.Sound) (id : ProducerId) :
    zone.holders id = ((zone.fleet.find? id).filter fun producer =>
      producer.phase = .started).toList.map fun producer => producer.cluster.name := by
  cases started : (zone.fleet.find? id).filter fun producer => producer.phase = .started with
  | some producer =>
    obtain ⟨found, runs⟩ := Option.filter_eq_some_iff.mp started
    obtain ⟨since, held⟩ := sound.held id producer found (of_decide_eq_true runs)
    have only : (zone.active.entries ++ zone.retiring.entries).filter
        (fun entry => entry.2.producer == id) = [(producer.cluster.name, ⟨id, since⟩)] := by
      refine List.perm_singleton.mp ((List.perm_ext_iff_of_nodup
        (sound.tables_nodup.filter _) (by simp)).mpr fun entry => ?_)
      rw [List.mem_filter, mem_tables, beq_iff_eq, List.mem_singleton]
      constructor
      · rintro ⟨holds, same⟩
        exact Prod.ext_iff.mpr (sound.unique holds held same)
      · rintro rfl
        exact ⟨held, rfl⟩
    rw [holders, only]
    rfl
  | none =>
    rw [holders, List.filter_eq_nil_iff.mpr]
    · rfl
    · intro entry member
      obtain ⟨producer, found, _, runs⟩ := sound.backed _ _ (mem_tables.mp member)
      intro same
      rw [beq_iff_eq.mp same] at found
      rw [found] at started
      simp [runs] at started

end Sound

/-- No entry of retirement is lost: each is still there, or its producer is active again, or has
been stopped. -/
def KeepsLedger (before after : Zone) : Prop :=
  ∀ name slot, before.retiring.find? name = some slot →
    after.retiring.find? name = some slot ∨
    (∃ since, after.active.find? name = some ⟨slot.producer, since⟩) ∨
    ∃ producer, after.fleet.find? slot.producer = some producer ∧ producer.phase = .stopped

/-- A reconciliation keeps what retires, or rescues it. -/
theorem Realigned.retires {before after : Zone} (apart : before.Apart)
    (realigned : before.Realigned after) {name : String} {slot : Slot}
    (retires : before.retiring.find? name = some slot) : after.retiring.find? name = some slot ∨
      ∃ since, after.active.find? name = some ⟨slot.producer, since⟩ := by
  unfold Realigned at realigned
  split at realigned
  · obtain ⟨_, _, _, _, rfl⟩ := realigned
    exact .inl retires
  · obtain ⟨summary, reconciled⟩ := realigned
    have absent := apart.inactive retires
    by_cases inside : name ∈ before.offered.map (·.name)
    · exact .inr ⟨_, reconciled.rescued name inside slot absent retires⟩
    · left
      rw [reconciled.retiring, if_neg inside, absent, retires]
      rfl

/-- Whatever is stopped was not stopped before, so that it ends in its last phase. -/
private theorem stopped_keeps {before after : Zone} (sound : before.Sound)
    {ids : List ProducerId} (once : ids.Nodup) (fleet : after.fleet = before.fleet.stopEach ids)
    {name : String} {slot : Slot} (holds : before.Holds name slot) (stopped : slot.producer ∈ ids) :
    ∃ producer, after.fleet.find? slot.producer = some producer ∧ producer.phase = .stopped := by
  obtain ⟨producer, found, _⟩ := sound.backed name slot holds
  refine ⟨producer.stop.2, ?_, ?_⟩
  · rw [fleet, Fleet.find?_stopEach _ once, if_pos stopped, found, Option.map_some]
  · rw [Producer.stop_stops (sound.orderly _ producer found).settled]

theorem Sound.keepsLedger {before after : Zone} (sound : before.Sound) {errand : Errand}
    (effect : errand.Effect before after) : before.KeepsLedger after := by
  intro name slot retires
  cases errand with
  | reload =>
    obtain ⟨middle, realigned, _, ⟨_, _, _, _, _, _, rfl⟩, _, _⟩ := effect
    exact (realigned.retires sound.apart retires).imp_right .inl
  | reconcileClusters => exact (effect.retires sound.apart retires).imp_right .inl
  | reconcileTopics =>
    obtain ⟨_, _, _, _, _, _, rfl⟩ := effect.rest
    exact .inl retires
  | reclaim =>
    by_cases due : Holdings.isDue before.clock.now before.settings.graceMillis slot = true
    · have member := mem_idsOf.mpr ⟨name, slot, find?_due.mpr ⟨retires, due⟩, rfl⟩
      exact .inr (.inr (stopped_keeps sound (sound.idsOf_nodup due_holds) effect.fleet
        (.inr retires) member))
    · left
      rw [effect.retiring, NameTable.find?_filter, retires,
        Option.filter_some_pos (by simpa using due)]
  | dispatch batch =>
    obtain ⟨_, _, _, _, _, rfl⟩ := effect.rest
    exact .inl retires
  | close =>
    have member := List.mem_append_left (idsOf before.active) (mem_idsOf.mpr
      ⟨name, slot, retires, rfl⟩)
    exact .inr (.inr (stopped_keeps sound sound.owned_nodup effect.fleet (.inr retires) member))

end Zone

namespace Course

/-- The invariant holds wherever a course leads. -/
theorem sound {legs : List Leg} {zone : Zone} (course : Course legs zone) : zone.Sound := by
  induction course with
  | begin built readable => exact Zone.build_sound built readable
  | outside _ change sound =>
    refine sound.of_lives (change.idle sound.idle) ?_ ?_ change.lives
    · obtain ⟨⟨_, _, _, rfl⟩, _, _⟩ := change
      rfl
    · obtain ⟨⟨_, _, _, rfl⟩, _, _⟩ := change
      rfl
  | errand errand _ ran sound =>
    obtain ⟨effect, idle⟩ := (errand.attains sound.idle sound.apart).of_ran ran
    exact sound.errand effect idle

/-- Wherever a course leads, the next errand comes to its end. -/
theorem completes {legs : List Leg} {zone : Zone} (course : Course legs zone) (errand : Errand) :
    ∃ answer after, errand.work.runAlone Zone.passUntil zone = (some answer, after) := by
  obtain ⟨answer, after, ran, _⟩ := errand.attains course.sound.idle course.sound.apart
  exact ⟨answer, after, ran⟩

/-- A zone may reload after any announcements. -/
theorem of_reloads {plan : Zone.Plan} {zone : Zone} (built : Zone.build plan = .ok zone)
    (readable : zone.clock.broken = false) (inventories : List Inventory) :
    Course (reloads zone inventories).1 (reloads zone inventories).2 := by
  suffices general : ∀ legs zone, Course legs zone →
      Course (inventories.foldl _ (legs, zone)).1 (inventories.foldl _ (legs, zone)).2 from
    general [] zone (.begin built readable)
  induction inventories with
  | nil => exact fun _ _ course => course
  | cons inventory rest ih =>
    intro legs zone course
    have told := course.outside (Zone.announce_outside inventory course.sound.idle.readable)
    obtain ⟨answer, after, ran⟩ := told.completes .reload
    rw [List.foldl_cons]
    apply ih _ _
    rw [ran]
    exact told.errand .reload ran

/-- Wherever a course leads, any errands may be done next, after any announcements and at any
readings of the clock. -/
theorem further {legs : List Leg} {zone : Zone} (course : Course legs zone)
    (plans : List (Inventory × Stamp × Errand)) :
    Course ((errands zone plans).1 ++ legs) (errands zone plans).2 := by
  suffices general : ∀ latest zone, Course (latest ++ legs) zone →
      Course ((plans.foldl _ (latest, zone)).1 ++ legs) (plans.foldl _ (latest, zone)).2 from
    general [] zone course
  induction plans with
  | nil => exact fun _ _ course => course
  | cons plan rest ih =>
    obtain ⟨inventory, reading, asked⟩ := plan
    intro latest zone course
    have readable := course.sound.idle.readable
    have told := course.outside (Zone.announce_outside inventory readable)
    have unbroken : (zone.clock.set reading).broken = false := by
      unfold Clock.set
      split <;> exact readable
    have set : Course (latest ++ legs)
        { zone.announce inventory with clock := zone.clock.set reading } :=
      told.outside (.of_producers ⟨_, _, _, rfl⟩ unbroken rfl)
    obtain ⟨answer, after, ran⟩ := set.completes asked
    rw [List.foldl_cons]
    apply ih _ _
    rw [ran]
    exact set.errand asked ran

/-- So they may in a zone that was just built. -/
theorem of_errands {plan : Zone.Plan} {zone : Zone} (built : Zone.build plan = .ok zone)
    (readable : zone.clock.broken = false) (plans : List (Inventory × Stamp × Errand)) :
    Course (errands zone plans).1 (errands zone plans).2 := by
  have course := (Course.begin built readable).further plans
  rwa [List.append_nil] at course

/-- And so they may if the producers of some cluster do not start. -/
theorem of_refusal {plan : Zone.Plan} {zone : Zone} (built : Zone.build plan = .ok zone)
    (readable : zone.clock.broken = false) (cluster : String)
    (plans : List (Inventory × Stamp × Errand)) :
    Course (errands { zone with fleet := zone.fleet.refuseStart cluster } plans).1
      (errands { zone with fleet := zone.fleet.refuseStart cluster } plans).2 := by
  have refuses : zone.Outside { zone with fleet := zone.fleet.refuseStart cluster } :=
    .of_producers ⟨_, _, _, rfl⟩ readable rfl
  have course := ((Course.begin built readable).outside refuses).further plans
  rwa [List.append_nil] at course

theorem absence_course : Course absence.1 absence.2 := of_reloads blank_built rfl _

/-- What each errand of a course has come to. -/
theorem effect {legs : List Leg} {zone : Zone} (course : Course legs zone) {leg : Leg}
    (member : leg ∈ legs) : leg.before.Sound ∧ leg.errand.Effect leg.before leg.after := by
  induction course with
  | begin => cases member
  | outside _ _ ih => exact ih member
  | errand errand course ran ih =>
    rcases List.mem_cons.mp member with rfl | earlier
    · exact ⟨course.sound, ((errand.attains course.sound.idle course.sound.apart).of_ran ran).1⟩
    · exact ih earlier

/-- In every course a cluster is active or retiring and not both; a producer has started and not
stopped exactly as long as one entry of the tables holds it, under its own cluster, so that no
cluster has two; every producer was started once and stopped at most once; and no errand drops an
entry of retirement whose producer it neither takes back nor stops. -/
theorem holders_eq_started {legs : List Leg} {zone : Zone} (course : Course legs zone) :
    (∀ name, ¬(zone.active.contains name = true ∧ zone.retiring.contains name = true)) ∧
    (∀ id, zone.holders id = ((zone.fleet.find? id).filter fun producer =>
      producer.phase = .started).toList.map fun producer => producer.cluster.name) ∧
    (∀ first second one other, zone.fleet.find? first = some one → one.phase = .started →
      zone.fleet.find? second = some other → other.phase = .started →
        one.cluster.name = other.cluster.name → first = second) ∧
    (∀ id producer, zone.fleet.find? id = some producer →
      producer.startCalls = 1 ∧ producer.stopCalls ≤ 1) ∧
    ∀ leg ∈ legs, leg.before.KeepsLedger leg.after := by
  have sound := course.sound
  refine ⟨?_, sound.holders_eq, ?_, ?_, ?_⟩
  · rintro name ⟨active, retires⟩
    obtain ⟨slot, found⟩ := NameTable.contains_iff.mp active
    rw [NameTable.contains_eq_false_iff.mpr (sound.apart name slot found)] at retires
    cases retires
  · intro first second one other found runs again too named
    obtain ⟨since, holds⟩ := sound.held first one found runs
    obtain ⟨_, also⟩ := sound.held second other again too
    exact congrArg Slot.producer (sound.functional holds (named ▸ also))
  · intro id producer found
    have orderly := sound.orderly id producer found
    refine ⟨orderly.startCalls, ?_⟩
    rw [orderly.stopCalls]
    split <;> decide
  · intro leg member
    obtain ⟨sound, effect⟩ := course.effect member
    exact sound.keepsLedger effect

/-- The producer that was built first serves again after its absence. -/
theorem holders_eq_started_of_absence : absence.2.holders 0 = ["A"] :=
  (holders_eq_started absence_course).2.1 0

end Course
end ClusterPool
