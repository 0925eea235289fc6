import ClusterPool.Proofs.Program.Pair
import ClusterPool.Proofs.Zone.Ownership

/-! A closing and a reconciliation of the clusters that are under way at the same time. They share
the gate of the tables but not the reload gate, so that the reconciliation may build and start
producers at any moment of the closing. What both of them have in hand, and where they stand, is
told by a record for each, and one statement on the zone and both records is kept by every moment of
either. -/
namespace ClusterPool

/-- The cluster that a producer is for, and the phase that it is in. -/
def Producer.station (producer : Producer) : String × Phase :=
  (producer.cluster.name, producer.phase)

/-- Whoever has the same life is in the same place. -/
theorem Fleet.Alike.stations {before after : Fleet} (lives : Alike Producer.life before after) :
    Alike Producer.station before after := lives.map fun life => (life.1.name, life.2.1)

namespace Zone
open Program

/-- What a reconciliation of the clusters holds and has still to do. -/
structure Revision where
  /-- How it stands to the gate of the tables. -/
  pass : Pass := .away
  /-- The clusters that it may make active, and once it has chosen its routes these. -/
  scope : List String := []
  /-- The clusters that it has still to build producers for. -/
  missing : List String := []
  /-- The producer that was built last, for which cluster, and in which phase it is, unless it is
  active or was given up. -/
  custody : Option (ProducerId × String × Phase) := none
  /-- It has chosen its routes. -/
  chosen : Bool := false

/-- What a closing holds and has still to do. -/
structure Closing where
  /-- How it stands to the gate of the tables. -/
  pass : Pass := .away
  /-- It has taken what retired. -/
  drained : Bool := false
  /-- The active clusters when it listed them. -/
  listed : Option Holdings := none
  /-- The clusters that it has listed and not yet taken. -/
  pending : List String := []
  /-- The producers that it has taken and not yet stopped. -/
  custody : List ProducerId := []
  /-- It has cleared the routes. -/
  cleared : Bool := false

/-- The closing has listed the producer as an active one. -/
def Closing.Has (closing : Closing) (id : ProducerId) : Prop :=
  ∃ table, closing.listed = some table ∧ id ∈ idsOf table

theorem Closing.has_iff {closing : Closing} {table : Holdings}
    (listed : closing.listed = some table) {id : ProducerId} :
    closing.Has id ↔ id ∈ idsOf table := by
  rw [Closing.Has, listed]
  simp

/-- The closing has listed the cluster as an active one. -/
def Closing.Lists (closing : Closing) (name : String) : Prop :=
  ∃ table, closing.listed = some table ∧ table.contains name = true

/-- No entry of the tables holds the producer. -/
def Free (zone : Zone) (id : ProducerId) : Prop :=
  ∀ name slot, zone.Holds name slot → slot.producer ≠ id

/-- How a zone stands to a reconciliation and a closing. The producers from the number `first` on
were built by this reconciliation. -/
structure Shared (first : ProducerId) (zone : Zone) (revision : Revision) (closing : Closing) :
    Prop where
  readable : zone.clock.broken = false
  passes : Passes zone.bookkeeping revision.pass closing.pass
  apart : zone.Apart
  backed : ∀ name slot, zone.Holds name slot → ∃ producer,
    zone.fleet.find? slot.producer = some producer ∧ producer.station = (name, .started)
  /-- Whatever runs is in the tables or in somebody's hands. -/
  held : ∀ id producer, zone.fleet.find? id = some producer → producer.phase = .started →
    (∃ since, zone.Holds producer.cluster.name ⟨id, since⟩) ∨
      (∃ name, revision.custody = some (id, name, .started)) ∨ id ∈ closing.custody
  settled : ∀ id producer, zone.fleet.find? id = some producer → producer.phase ≠ .stopping
  earlier : ∀ id, id < first → ∃ producer, zone.fleet.find? id = some producer
  /-- Of what the reconciliation has built only that is stopped which the closing has listed. -/
  spared : ∀ id producer, first ≤ id → zone.fleet.find? id = some producer →
    producer.phase = .stopped → closing.Has id
  newcomers : ∀ name slot, zone.active.find? name = some slot → first ≤ slot.producer →
    name ∈ revision.scope
  veterans : ∀ name slot, zone.retiring.find? name = some slot → slot.producer < first
  absent : ∀ name ∈ revision.missing, zone.active.find? name = none ∧
    zone.retiring.find? name = none ∧ name ∈ revision.scope
  once : revision.missing.Nodup
  custody : ∀ id name phase, revision.custody = some (id, name, phase) →
    (∃ producer, zone.fleet.find? id = some producer ∧ producer.station = (name, phase)) ∧
      first ≤ id ∧ zone.Free id ∧ id ∉ closing.custody ∧ ¬closing.Has id
  chosen : revision.chosen = true → revision.missing = [] ∧ revision.custody = none
  /-- A route that was chosen is active as long as the closing has not taken its cluster. -/
  serving : revision.chosen = true → ∀ name ∈ revision.scope,
    zone.active.contains name = true ∨ closing.Lists name
  /-- The retiring table is empty once the closing has taken it. -/
  drained : closing.drained = true → zone.retiring = .empty
  /-- Once the closing has listed the active clusters, what it has not listed was built since. -/
  listed : closing.listed ≠ none → ∀ name slot, zone.active.find? name = some slot →
    slot.producer < first ∨ closing.Has slot.producer → name ∈ closing.pending
  known : ∀ id, closing.Has id → ∃ producer, zone.fleet.find? id = some producer
  pending : ∀ name ∈ closing.pending, closing.Lists name ∧
    ∃ slot, zone.active.find? name = some slot ∧ closing.Has slot.producer
  pendingOnce : closing.pending.Nodup
  taken : ∀ id ∈ closing.custody, (∃ producer, zone.fleet.find? id = some producer) ∧
    zone.Free id ∧ (id < first ∨ closing.Has id)
  /-- The closing is inside the gate from the draining to the last cluster it has listed. -/
  draining : closing.drained = true → closing.listed = none → closing.pass = .inside
  emptying : closing.pending ≠ [] → closing.pass = .inside
  order : closing.listed ≠ none → closing.drained = true
  finished : closing.cleared = true → closing.listed ≠ none ∧ closing.pending = []
  /-- Routes that come after the closing has cleared them are those of the reconciliation. -/
  routes : closing.cleared = true → zone.rotation.names = [] ∨
    (revision.chosen = true ∧ zone.rotation.names = revision.scope)

namespace Shared

variable {first : ProducerId} {zone : Zone} {revision : Revision} {closing : Closing}

/-- A zone in which nobody is at work. -/
theorem begins (sound : zone.Sound) : Shared zone.fleet.producers.length zone {} {} := by
  have inside : ∀ name slot, zone.Holds name slot →
      slot.producer < zone.fleet.producers.length := by
    intro name slot holds
    obtain ⟨_, found, _⟩ := sound.backed name slot holds
    exact (List.getElem?_eq_some_iff.mp found).1
  have unlisted : ∀ id, ¬Closing.Has {} id := by
    rintro id ⟨_, listed, _⟩
    cases listed
  constructor
  case readable => exact sound.idle.readable
  case passes => exact ⟨nofun, nofun, nofun⟩
  case apart => exact sound.apart
  case backed =>
    intro name slot holds
    obtain ⟨producer, found, named, started⟩ := sound.backed name slot holds
    exact ⟨producer, found, by rw [Producer.station, named, started]⟩
  case held => exact fun id producer found started => .inl (sound.held id producer found started)
  case settled => exact fun id producer found => (sound.orderly id producer found).settled
  case earlier => exact fun id inside => ⟨_, List.getElem?_eq_getElem inside⟩
  case spared =>
    intro id producer beyond found
    rw [Fleet.find?, List.getElem?_eq_none beyond] at found
    cases found
  case newcomers =>
    exact fun name slot found beyond =>
      absurd (inside name slot (.inl found)) (Nat.not_lt.mpr beyond)
  case veterans => exact fun name slot found => inside name slot (.inr found)
  case once => exact List.nodup_nil
  case pendingOnce => exact List.nodup_nil
  case known => exact fun id has => absurd has (unlisted id)
  all_goals simp

/-- A closing that is not at the tables has nothing to do there, and what retired was listed. -/
theorem outside (shared : Shared first zone revision closing) (away : closing.pass ≠ .inside) :
    closing.pending = [] ∧ (closing.drained = true → closing.listed ≠ none) :=
  ⟨Classical.not_not.mp fun some => away (shared.emptying some),
    fun drained none => away (shared.draining drained none)⟩

/-- Once the closing has taken all that it listed, only what was built since is active. -/
theorem latecomers (shared : Shared first zone revision closing) (done : closing.pending = [])
    (listed : closing.listed ≠ none) {name : String} {slot : Slot}
    (found : zone.active.find? name = some slot) :
    first ≤ slot.producer ∧ ¬closing.Has slot.producer ∧ name ∈ revision.scope := by
  have late : ¬(slot.producer < first ∨ closing.Has slot.producer) := fun early => by
    have member := shared.listed listed name slot found early
    rw [done] at member
    cases member
  obtain ⟨new, unlisted⟩ := not_or.mp late
  have beyond := Nat.not_lt.mp new
  exact ⟨beyond, unlisted, shared.newcomers name slot found beyond⟩

/-- What a producer is held under is its cluster, so that no two entries hold one. -/
theorem unique (shared : Shared first zone revision closing) {one other : String}
    {slot twin : Slot} (holds : zone.Holds one slot) (also : zone.Holds other twin)
    (same : slot.producer = twin.producer) : one = other := by
  obtain ⟨_, found, station⟩ := shared.backed one slot holds
  obtain ⟨_, again, place⟩ := shared.backed other twin also
  rw [same, again] at found
  cases found
  rw [station] at place
  exact congrArg Prod.fst place

end Shared

/-- Nothing happened to the tables, to the routes, to their gate or to the phase of any producer. -/
structure Still (before after : Zone) : Prop where
  active : after.active = before.active
  retiring : after.retiring = before.retiring
  routes : after.rotation.names = before.rotation.names
  book : after.bookkeeping = before.bookkeeping
  readable : before.clock.broken = false → after.clock.broken = false
  stations : Fleet.Alike Producer.station before.fleet after.fleet

namespace Still

theorem refl (zone : Zone) : Still zone zone := ⟨rfl, rfl, rfl, rfl, fun same => same, .refl _⟩

theorem trans {first second third : Zone} (early : Still first second)
    (late : Still second third) : Still first third :=
  ⟨late.active.trans early.active, late.retiring.trans early.retiring,
    late.routes.trans early.routes, late.book.trans early.book,
    fun readable => late.readable (early.readable readable), early.stations.trans late.stations⟩

/-- What is told of the producers besides their clusters and phases does not matter, nor does what
was counted or reported, or which topics there are. -/
theorem of_stations {before after : Zone}
    (rest : ∃ fleet topics tally journal, after = { before with fleet, topics, tally, journal })
    (stations : Fleet.Alike Producer.station before.fleet after.fleet) : Still before after := by
  obtain ⟨_, _, _, _, rfl⟩ := rest
  exact ⟨rfl, rfl, rfl, rfl, fun same => same, stations⟩

/-- What happens outside of a pool. -/
theorem of_outside {before after : Zone} (change : before.Outside after) : Still before after := by
  have stations := change.lives.stations
  obtain ⟨⟨_, _, _, rfl⟩, readable, _⟩ := change
  exact ⟨rfl, rfl, rfl, rfl, fun _ => readable, stations⟩

/-- Counting, reporting, and the gate of the reconciliations. -/
theorem of_notes (zone : Zone) (tally : Tally) (journal : List Note) (topics : NameSet)
    (reloading : Turnstile) (catalog : Catalog) :
    Still zone { zone with tally, journal, topics, reloading, catalog } :=
  ⟨rfl, rfl, rfl, rfl, fun same => same, .refl _⟩

end Still

namespace Shared

variable {first : ProducerId} {zone after : Zone} {revision : Revision} {closing : Closing}

/-- What is of no consequence for the zone as far as the two parties are concerned. -/
theorem still (shared : Shared first zone revision closing) (still : Still zone after) :
    Shared first after revision closing := by
  have holds : ∀ name slot, after.Holds name slot ↔ zone.Holds name slot := fun name slot => by
    rw [Holds, Holds, still.active, still.retiring]
  have free : ∀ id, zone.Free id → after.Free id := fun id free name slot held =>
    free name slot ((holds name slot).mp held)
  have lasts : ∀ {id}, (∃ producer, zone.fleet.find? id = some producer) →
      ∃ producer, after.fleet.find? id = some producer := by
    rintro id ⟨producer, found⟩
    obtain ⟨latter, later, _⟩ := still.stations.later found
    exact ⟨latter, later⟩
  -- A producer of the later fleet has an earlier self for the same cluster and in the same phase.
  have former : ∀ {id producer}, after.fleet.find? id = some producer → ∃ earlier,
      zone.fleet.find? id = some earlier ∧ earlier.cluster.name = producer.cluster.name ∧
        earlier.phase = producer.phase := by
    intro id producer found
    obtain ⟨earlier, known, same⟩ := still.stations.earlier found
    exact ⟨earlier, known, congrArg Prod.fst same, congrArg Prod.snd same⟩
  constructor
  case readable => exact still.readable shared.readable
  case passes => exact still.book ▸ shared.passes
  case apart =>
    rw [Apart, still.active, still.retiring]
    exact shared.apart
  case backed =>
    intro name slot held
    obtain ⟨producer, found, station⟩ := shared.backed name slot ((holds name slot).mp held)
    obtain ⟨latter, later, same⟩ := still.stations.later found
    exact ⟨latter, later, same.trans station⟩
  case held =>
    intro id producer found started
    obtain ⟨earlier, known, named, phase⟩ := former found
    rcases shared.held id earlier known (phase.trans started) with ⟨since, held⟩ | others
    · exact .inl ⟨since, (holds _ _).mpr (named ▸ held)⟩
    · exact .inr others
  case settled =>
    intro id producer found
    obtain ⟨earlier, known, _, phase⟩ := former found
    exact phase ▸ shared.settled id earlier known
  case earlier => exact fun id inside => lasts (shared.earlier id inside)
  case spared =>
    intro id producer beyond found stopped
    obtain ⟨earlier, known, _, phase⟩ := former found
    exact shared.spared id earlier beyond known (phase.trans stopped)
  case newcomers =>
    rw [still.active]
    exact shared.newcomers
  case veterans =>
    rw [still.retiring]
    exact shared.veterans
  case absent =>
    rw [still.active, still.retiring]
    exact shared.absent
  case once => exact shared.once
  case custody =>
    intro id name phase hand
    obtain ⟨⟨producer, found, station⟩, beyond, unheld, others⟩ := shared.custody id name phase hand
    obtain ⟨latter, later, same⟩ := still.stations.later found
    exact ⟨⟨latter, later, same.trans station⟩, beyond, free id unheld, others⟩
  case chosen => exact shared.chosen
  case serving =>
    rw [still.active]
    exact shared.serving
  case drained =>
    rw [still.retiring]
    exact shared.drained
  case listed =>
    rw [still.active]
    exact shared.listed
  case known => exact fun id has => lasts (shared.known id has)
  case pending =>
    rw [still.active]
    exact shared.pending
  case pendingOnce => exact shared.pendingOnce
  case taken =>
    intro id member
    obtain ⟨found, unheld, listed⟩ := shared.taken id member
    exact ⟨lasts found, free id unheld, listed⟩
  case draining => exact shared.draining
  case emptying => exact shared.emptying
  case order => exact shared.order
  case finished => exact shared.finished
  case routes =>
    rw [still.routes]
    exact shared.routes

end Shared

/-- Two parties are surrounded by time, and by what happens outside of a pool. -/
def neighbourhood : Surroundings Zone where
  now := Zone.now
  changes := Outside

/-- What is said of a zone and two records holds on through whatever is still. -/
def Calm (shared : Zone → ρ → κ → Prop) : Prop :=
  ∀ before after mine others, Still before after →
    shared before mine others → shared after mine others

section
variable {shared : Zone → ρ → κ → Prop} {mine : ρ}

theorem rest_guards (ms : Nat) {goal : Unit → ρ → Prop} (holds : goal () mine) :
    (rest ms).Guards neighbourhood shared goal mine := by
  unfold rest
  split
  · exact holds
  · exact Guards.bind (.look fun _ => .sleepUntil holds)

theorem fetch_guards {part : Inventory → α} {goal : Except Fault α → ρ → Prop}
    (holds : ∀ result, goal result mine) :
    (fetch part).Guards neighbourhood shared goal mine := by
  refine Guards.bind (.look fun zone => ?_)
  dsimp only
  split
  · exact Guards.bind (.sleepUntil (Guards.bind (.look fun _ => holds _)))
  · exact Guards.bind (.look fun _ => holds _)

/-- Whoever knows that the clock can be read does so. -/
theorem readClock_guards (readable : ∀ zone others, shared zone mine others →
    zone.clock.broken = false) {goal : Stamp → ρ → Prop} (holds : ∀ now, goal now mine) :
    readClock.Guards neighbourhood shared goal mine := by
  refine Guards.bind (.get fun zone others now => ⟨mine, now, ?_⟩)
  rw [readable zone others now]
  exact holds _

namespace Calm

variable (calm : Calm shared)
include calm

theorem modify {change : Zone → Zone} {goal : Unit → ρ → Prop}
    (still : ∀ zone, Still zone (change zone)) (holds : goal () mine) :
    (modify change).Guards neighbourhood shared goal mine :=
  .modify fun zone _ now => ⟨mine, calm _ _ _ _ (still zone) now, holds⟩

theorem perform {action : Zone → α × Zone} {goal : α → ρ → Prop}
    (still : ∀ zone, Still zone (action zone).2) (holds : ∀ answer, goal answer mine) :
    (perform action).Guards neighbourhood shared goal mine :=
  .perform fun zone _ now => ⟨mine, calm _ _ _ _ (still zone) now, holds _⟩

/-- Nobody but other reconciliations takes notice of the reload gate. -/
theorem insideReload {work : Program Zone α} {goal : α → ρ → Prop}
    (guards : work.Guards neighbourhood shared goal mine) :
    (reloadGate.inside work).Guards neighbourhood shared goal mine := by
  refine Guards.bind fun zone others now =>
    ⟨mine, calm _ _ _ _ (.of_notes zone _ _ _ _ _) now, ?_⟩
  refine .waitFor fun zone others now _ => ⟨mine, now, ?_⟩
  exact .ending (guards.mono fun value left holds zone others now =>
    ⟨left, calm _ _ _ _ (.of_notes zone _ _ _ _ _) now, holds⟩)

end Calm
end
end Zone
end ClusterPool
