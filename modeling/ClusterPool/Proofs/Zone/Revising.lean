import ClusterPool.Proofs.Zone.Continuity
import ClusterPool.Proofs.Zone.Overlap

/-! What a reconciliation of the clusters does to a zone that somebody closes meanwhile: each of its
moments, and the whole of it. -/
namespace ClusterPool
namespace Zone
open Program

namespace Shared

variable {first : ProducerId} {zone after : Zone} {revision : Revision} {closing : Closing}

/-- It comes to the gate of the tables, is admitted, or leaves. -/
theorem passRevision (shared : Shared first zone revision closing) {bookkeeping : Turnstile}
    {pass : Pass} (passes : Passes bookkeeping pass closing.pass) :
    Shared first { zone with bookkeeping } { revision with pass } closing :=
  { shared with passes := passes }

end Shared

/-- Entries went from one table to the other. Nobody came to the tables, and nobody left them. -/
structure Resorted (before after : Zone) : Prop where
  fleet : after.fleet = before.fleet
  came : ∀ {name slot}, after.Holds name slot →
    ∃ former, before.Holds name former ∧ slot.producer = former.producer
  stays : ∀ {name id since}, before.Holds name ⟨id, since⟩ → ∃ since, after.Holds name ⟨id, since⟩

namespace Resorted

variable {first : ProducerId} {before after : Zone} {revision : Revision} {closing : Closing}
  (resorted : Resorted before after) (shared : Shared first before revision closing)
include resorted shared

theorem backed : ∀ name slot, after.Holds name slot → ∃ producer,
    after.fleet.find? slot.producer = some producer ∧ producer.station = (name, .started) := by
  intro name slot holds
  obtain ⟨former, held, same⟩ := resorted.came holds
  rw [resorted.fleet, same]
  exact shared.backed name former held

theorem held : ∀ id producer, after.fleet.find? id = some producer → producer.phase = .started →
    (∃ since, after.Holds producer.cluster.name ⟨id, since⟩) ∨
      (∃ name, revision.custody = some (id, name, .started)) ∨ id ∈ closing.custody := by
  intro id producer found started
  rw [resorted.fleet] at found
  exact (shared.held id producer found started).imp_left fun ⟨_, holds⟩ => resorted.stays holds

theorem taken : ∀ id ∈ closing.custody, (∃ producer, after.fleet.find? id = some producer) ∧
    after.Free id ∧ (id < first ∨ closing.Has id) := by
  intro id member
  obtain ⟨found, free, listed⟩ := shared.taken id member
  refine ⟨resorted.fleet ▸ found, fun name slot holds => ?_, listed⟩
  obtain ⟨former, held, same⟩ := resorted.came holds
  rw [same]
  exact free name former held

end Resorted

namespace Shared

variable {first : ProducerId} {zone after : Zone} {revision : Revision} {closing : Closing}

/-- It sorts the selected clusters in. What it rescues has retired before it began. -/
theorem divide {order : List Cluster} {now : Stamp} {division : Division}
    (shared : Shared first zone { pass := .inside } closing)
    (divided : Divided now order {} zone division after)
    (once : (order.map (·.name)).Nodup) :
    Shared first after
      { pass := .inside, scope := order.map (·.name)
        missing := division.missing.map (·.name) } closing := by
  have missing : division.missing = zone.missing order := divided.missing
  obtain ⟨done, drained⟩ := shared.outside shared.passes.alone
  have grows : ∀ name slot, zone.active.find? name = some slot →
      after.active.find? name = some slot := fun name slot found => by
    rw [divided.active, found, Option.some_or]
  have shrinks : ∀ name slot, after.retiring.find? name = some slot →
      zone.retiring.find? name = some slot := by
    intro name slot found
    rw [divided.retiring] at found
    split at found
    · cases found
    · exact found
  -- What is active afterwards was so before, or has come back from retirement.
  have source : ∀ name slot, after.active.find? name = some slot →
      zone.active.find? name = some slot ∨ (name ∈ order.map (·.name) ∧
        zone.active.find? name = none ∧ ∃ former, zone.retiring.find? name = some former ∧
          slot.producer = former.producer) := by
    intro name slot found
    rw [divided.active] at found
    cases active : zone.active.find? name with
    | some former =>
      rw [active, Option.some_or] at found
      exact .inl found
    | none =>
      rw [active, Option.none_or] at found
      split at found
      · rename_i inside
        obtain ⟨former, retires, rfl⟩ := Option.map_eq_some_iff.mp found
        exact .inr ⟨inside, rfl, former, retires, rfl⟩
      · cases found
  have came : ∀ {name slot}, after.Holds name slot → ∃ former, zone.Holds name former ∧
      slot.producer = former.producer := by
    rintro name slot (active | retires)
    · rcases source name slot active with kept | ⟨_, _, former, retired, same⟩
      · exact ⟨slot, .inl kept, rfl⟩
      · exact ⟨former, .inr retired, same⟩
    · exact ⟨slot, .inr (shrinks name slot retires), rfl⟩
  have stays : ∀ {name id since}, zone.Holds name ⟨id, since⟩ →
      ∃ since, after.Holds name ⟨id, since⟩ := by
    rintro name id since (active | retires)
    · exact ⟨since, .inl (grows name _ active)⟩
    · have inactive := shared.apart.inactive retires
      by_cases inside : name ∈ order.map (·.name)
      · refine ⟨now, .inl ?_⟩
        rw [divided.active, inactive, retires, if_pos inside]
        rfl
      · refine ⟨since, .inr ?_⟩
        rw [divided.retiring, if_neg fun both => inside both.1]
        exact retires
  -- The closing has emptied the retiring table before it lists, so that nothing comes back then.
  have unchanged : closing.listed ≠ none → after.active = zone.active := by
    intro listed
    refine NameTable.eq_of_find? fun name => ?_
    have none : zone.retiring.find? name = none := by
      rw [shared.drained (shared.order listed), NameTable.find?_empty]
    rw [divided.active, none, Option.map_none, ite_self, Option.or_none]
  have fleet : after.fleet = zone.fleet := divided.beside.fleet
  have resorted : Resorted zone after := ⟨fleet, came, stays⟩
  constructor
  case readable => exact divided.beside.clock ▸ shared.readable
  case passes => exact divided.beside.bookkeeping ▸ shared.passes
  case apart =>
    intro name slot found
    rcases source name slot found with kept | ⟨inside, inactive, _⟩
    · rw [divided.retiring, shared.apart name slot kept, ite_self]
    · rw [divided.retiring, if_pos ⟨inside, NameTable.contains_eq_false_iff.mpr inactive⟩]
  case backed => exact resorted.backed shared
  case held =>
    -- The records differ in what is to be done, and not in what is in hand.
    have held := resorted.held shared
    exact held
  case settled => exact fleet ▸ shared.settled
  case earlier => exact fleet ▸ shared.earlier
  case spared => exact fleet ▸ shared.spared
  case newcomers =>
    intro name slot found beyond
    rcases source name slot found with kept | ⟨inside, _⟩
    · cases shared.newcomers name slot kept beyond
    · exact inside
  case veterans => exact fun name slot found => shared.veterans name slot (shrinks name slot found)
  case absent =>
    intro name member
    obtain ⟨cluster, listed, rfl⟩ := List.mem_map.mp member
    rw [missing] at listed
    have inactive := NameTable.contains_eq_false_iff.mp (divided.inactive listed)
    obtain ⟨inside, nowhere⟩ := List.mem_filter.mp listed
    simp only [Bool.and_eq_true, Bool.not_eq_eq_eq_not, Bool.not_true] at nowhere
    have gone : zone.retiring.find? cluster.name = none :=
      NameTable.contains_eq_false_iff.mp nowhere.2
    exact ⟨inactive, by rw [divided.retiring, gone, ite_self], List.mem_map_of_mem inside⟩
  case once =>
    rw [missing]
    exact once.sublist (List.filter_sublist.map _)
  case custody => exact nofun
  case chosen => exact nofun
  case serving => exact nofun
  case drained =>
    intro drains
    refine NameTable.eq_empty_of_find? fun name => ?_
    rw [divided.retiring, shared.drained drains, NameTable.find?_empty, ite_self]
  case listed =>
    intro listed
    rw [unchanged listed]
    exact shared.listed listed
  case known => exact fleet ▸ shared.known
  case pending =>
    rw [done]
    exact List.forall_mem_nil _
  case pendingOnce => exact shared.pendingOnce
  case taken => exact resorted.taken shared
  case draining => exact shared.draining
  case emptying => exact shared.emptying
  case order => exact shared.order
  case finished => exact shared.finished
  case routes =>
    intro cleared
    have same : after.rotation = zone.rotation := by
      obtain ⟨_, _, _, rfl⟩ := divided.rest
      rfl
    rcases shared.routes cleared with none | ⟨⟨⟩, _⟩
    exact .inl (same ▸ none)

/-- It has built a producer, which is in its hands from then on. -/
theorem build (shared : Shared first zone revision closing) (idle : revision.custody = none)
    (unchosen : revision.chosen = false) (fleet : Fleet)
    (same : fleet.producers = zone.fleet.producers) {producer : Producer} {name : String}
    (station : producer.station = (name, .created)) :
    Shared first { zone with fleet := fleet.add producer }
      { revision with custody := some (fleet.producers.length, name, .created) } closing := by
  have created : producer.phase = .created := congrArg Prod.snd station
  have lasts : ∀ {id former}, zone.fleet.find? id = some former →
      (fleet.add producer).find? id = some former := by
    intro id former found
    rw [Fleet.find?, ← same] at found
    exact (List.getElem?_append_left (List.getElem?_eq_some_iff.mp found).1).trans found
  have source : ∀ {id latter}, (fleet.add producer).find? id = some latter →
      zone.fleet.find? id = some latter ∨ (id = fleet.producers.length ∧ latter = producer) := by
    intro id latter found
    rw [Fleet.find?, Fleet.add] at found
    rcases Nat.lt_or_ge id fleet.producers.length with inside | beyond
    · rw [List.getElem?_append_left inside, same] at found
      exact .inl found
    · rw [List.getElem?_append_right beyond, List.getElem?_singleton] at found
      split at found
      · rename_i last
        exact .inr ⟨Nat.le_antisymm (Nat.sub_eq_zero_iff_le.mp last) beyond,
          (Option.some.inj found).symm⟩
      · cases found
  -- Nothing is known of the new number before.
  have unknown : ∀ former, zone.fleet.find? fleet.producers.length ≠ some former := by
    intro former found
    rw [Fleet.find?, ← same] at found
    exact Nat.lt_irrefl _ (List.getElem?_eq_some_iff.mp found).1
  have remains : ∀ {id}, (∃ producer, zone.fleet.find? id = some producer) →
      ∃ latter, (fleet.add producer).find? id = some latter := by
    rintro id ⟨former, found⟩
    exact ⟨former, lasts found⟩
  constructor
  case readable => exact shared.readable
  case passes => exact shared.passes
  case apart => exact shared.apart
  case backed =>
    intro name slot holds
    obtain ⟨former, found, station⟩ := shared.backed name slot holds
    exact ⟨former, lasts found, station⟩
  case held =>
    intro id latter found started
    rcases source found with old | ⟨_, rfl⟩
    · rcases shared.held id latter old started with holds | ⟨_, hand⟩ | taken
      · exact .inl holds
      · rw [idle] at hand
        cases hand
      · exact .inr (.inr taken)
    · rw [created] at started
      cases started
  case settled =>
    intro id latter found
    rcases source found with old | ⟨_, rfl⟩
    · exact shared.settled id latter old
    · simp [created]
  case earlier => exact fun id inside => remains (shared.earlier id inside)
  case spared =>
    intro id latter beyond found stopped
    rcases source found with old | ⟨_, rfl⟩
    · exact shared.spared id latter beyond old stopped
    · rw [created] at stopped
      cases stopped
  case newcomers => exact shared.newcomers
  case veterans => exact shared.veterans
  case absent => exact shared.absent
  case once => exact shared.once
  case custody =>
    rintro _ _ _ ⟨⟩
    refine ⟨⟨producer, Fleet.find?_add_newest fleet producer, station⟩, ?_, ?_, ?_, ?_⟩
    · refine Nat.not_lt.mp fun early => ?_
      obtain ⟨former, found⟩ := shared.earlier _ early
      exact unknown former found
    · intro name slot holds new
      obtain ⟨former, found, _⟩ := shared.backed name slot holds
      exact unknown former (new ▸ found)
    · intro taken
      obtain ⟨⟨former, found⟩, _⟩ := shared.taken _ taken
      exact unknown former found
    · intro has
      obtain ⟨former, found⟩ := shared.known _ has
      exact unknown former found
  case chosen => exact fun chosen => by simp [unchosen] at chosen
  case serving => exact shared.serving
  case drained => exact shared.drained
  case listed => exact shared.listed
  case known => exact fun id has => remains (shared.known id has)
  case pending => exact shared.pending
  case pendingOnce => exact shared.pendingOnce
  case taken =>
    intro id member
    obtain ⟨found, unheld, listed⟩ := shared.taken id member
    exact ⟨remains found, unheld, listed⟩
  case draining => exact shared.draining
  case emptying => exact shared.emptying
  case order => exact shared.order
  case finished => exact shared.finished
  case routes => exact shared.routes

/-- It gives up the producer that it has in its hands and that does not run. -/
theorem giveUp {id : ProducerId} {name : String} {phase : Phase}
    (shared : Shared first zone { revision with custody := some (id, name, phase) } closing)
    (idle : phase ≠ .started) : Shared first zone { revision with custody := none } closing :=
  { shared with
    held := fun other producer found started => by
      rcases shared.held other producer found started with holds | ⟨_, hand⟩ | taken
      · exact .inl holds
      · obtain ⟨_, _, same⟩ : id = other ∧ name = _ ∧ phase = .started := by simpa using hand
        exact absurd same idle
      · exact .inr (.inr taken)
    custody := nofun
    chosen := fun chosen => ⟨(shared.chosen chosen).1, rfl⟩ }

/-- It gives up the cluster for which it could not build a producer that runs. -/
theorem skip (shared : Shared first zone revision closing) {name : String} {rest : List String}
    (missing : revision.missing = name :: rest) :
    Shared first zone { revision with missing := rest } closing := by
  have once := shared.once
  rw [missing, List.nodup_cons] at once
  exact { shared with
    absent := fun other member =>
      shared.absent other (missing ▸ List.mem_cons_of_mem _ member)
    once := once.2
    chosen := fun chosen => by
      rw [(shared.chosen chosen).1] at missing
      cases missing }

/-- The start of the producer in its hands takes effect. -/
theorem launch {id : ProducerId} {name : String}
    (shared : Shared first zone { revision with custody := some (id, name, .created) } closing)
    {latter : Producer} (starts : latter.station = (name, .started)) :
    Shared first { zone with fleet := zone.fleet.update id fun _ => latter }
      { revision with custody := some (id, name, .started) } closing := by
  obtain ⟨⟨_, known, _⟩, beyond, unheld, untaken, unlisted⟩ :=
    shared.custody id name .created rfl
  have others : ∀ {other}, other ≠ id →
      (zone.fleet.update id fun _ => latter).find? other = zone.fleet.find? other :=
    fun differs => Fleet.find?_update_other differs zone.fleet _
  have itself : (zone.fleet.update id fun _ => latter).find? id = some latter :=
    Fleet.find?_update_self known _
  have runs : latter.phase = .started := congrArg Prod.snd starts
  constructor
  case readable => exact shared.readable
  case passes => exact shared.passes
  case apart => exact shared.apart
  case backed =>
    intro other slot holds
    rw [others (unheld other slot holds)]
    exact shared.backed other slot holds
  case held =>
    intro other producer found started
    by_cases same : other = id
    · exact .inr (.inl ⟨name, by rw [same]⟩)
    · rw [others same] at found
      rcases shared.held other producer found started with holds | ⟨_, hand⟩ | taken
      · exact .inl holds
      · cases hand
      · exact .inr (.inr taken)
  case settled =>
    intro other producer found
    by_cases same : other = id
    · subst same
      cases itself.symm.trans found
      simp [runs]
    · exact shared.settled other producer (others same ▸ found)
  case earlier => exact fun other inside => Fleet.update_lasts (shared.earlier other inside) id _
  case spared =>
    intro other producer new found stopped
    by_cases same : other = id
    · subst same
      cases itself.symm.trans found
      rw [runs] at stopped
      cases stopped
    · exact shared.spared other producer new (others same ▸ found) stopped
  case newcomers => exact shared.newcomers
  case veterans => exact shared.veterans
  case absent => exact shared.absent
  case once => exact shared.once
  case custody =>
    rintro _ _ _ ⟨⟩
    exact ⟨⟨latter, itself, starts⟩, beyond, unheld, untaken, unlisted⟩
  case chosen => exact fun chosen => absurd (shared.chosen chosen).2 (by simp)
  case serving => exact shared.serving
  case drained => exact shared.drained
  case listed => exact shared.listed
  case known => exact fun other has => Fleet.update_lasts (shared.known other has) id _
  case pending => exact shared.pending
  case pendingOnce => exact shared.pendingOnce
  case taken =>
    intro other member
    obtain ⟨found, free, listed⟩ := shared.taken other member
    exact ⟨Fleet.update_lasts found id _, free, listed⟩
  case draining => exact shared.draining
  case emptying => exact shared.emptying
  case order => exact shared.order
  case finished => exact shared.finished
  case routes =>
    intro cleared
    exact (shared.routes cleared).imp_right fun late =>
      absurd (shared.chosen late.1).2 (by simp)

/-- The producer in its hands becomes active, as nobody else serves the cluster. -/
theorem activate {id : ProducerId} {cluster : Cluster} {rest : List String} (now : Stamp)
    (shared : Shared first zone
      { revision with
        missing := cluster.name :: rest, custody := some (id, cluster.name, .started) } closing) :
    (Zone.activate cluster id now zone).1 = true ∧
      Shared first (Zone.activate cluster id now zone).2
        { revision with missing := rest, custody := none } closing := by
  obtain ⟨inactive, gone, inside⟩ := shared.absent cluster.name List.mem_cons_self
  obtain ⟨distinct, once⟩ := List.nodup_cons.mp shared.once
  obtain ⟨newest, beyond, unheld, untaken, unlisted⟩ := shared.custody id _ .started rfl
  have unchosen : revision.chosen ≠ true := fun chosen =>
    absurd (shared.chosen chosen).2 (by simp)
  have inserts : Zone.activate cluster id now zone = (true, { zone with
      active := zone.active.insert cluster.name ⟨id, now⟩
      tally := zone.tally.count .producersCreated }) := by
    rw [Zone.activate, NameTable.contains_eq_false_iff.mpr inactive]
    rfl
  rw [inserts]
  refine ⟨rfl, ?_⟩
  have itself : (zone.active.insert cluster.name ⟨id, now⟩).find? cluster.name =
      some ⟨id, now⟩ := by
    rw [NameTable.find?_insert, if_pos rfl]
  have others : ∀ {name}, name ≠ cluster.name →
      (zone.active.insert cluster.name ⟨id, now⟩).find? name = zone.active.find? name :=
    fun differs => by rw [NameTable.find?_insert, if_neg differs]
  have source : ∀ {name slot},
      (zone.active.insert cluster.name ⟨id, now⟩).find? name = some slot →
        (name = cluster.name ∧ slot = ⟨id, now⟩) ∨ zone.active.find? name = some slot := by
    intro name slot found
    by_cases same : name = cluster.name
    · subst same
      exact .inl ⟨rfl, Option.some.inj (found.symm.trans itself)⟩
    · exact .inr (others same ▸ found)
  have stays : ∀ {name slot}, zone.active.find? name = some slot →
      (zone.active.insert cluster.name ⟨id, now⟩).find? name = some slot := by
    intro name slot found
    have differs : name ≠ cluster.name := by
      rintro rfl
      rw [inactive] at found
      cases found
    exact (others differs).trans found
  exact { shared with
    apart := fun name slot found => by
      rcases source found with ⟨rfl, _⟩ | kept
      · exact gone
      · exact shared.apart name slot kept
    backed := fun name slot holds => by
      rcases holds with active | retires
      · rcases source active with ⟨rfl, rfl⟩ | kept
        · exact newest
        · exact shared.backed name slot (.inl kept)
      · exact shared.backed name slot (.inr retires)
    held := fun other producer found started => by
      rcases shared.held other producer found started with ⟨since, holds⟩ | ⟨name, hand⟩ | taken
      · exact .inl ⟨since, holds.imp_left stays⟩
      · cases hand
        obtain ⟨_, known, station⟩ := newest
        cases known.symm.trans found
        have named : producer.cluster.name = cluster.name := congrArg Prod.fst station
        rw [named]
        exact .inl ⟨now, .inl itself⟩
      · exact .inr (.inr taken)
    newcomers := fun name slot found new => by
      rcases source found with ⟨rfl, _⟩ | kept
      · exact inside
      · exact shared.newcomers name slot kept new
    absent := fun name member => by
      obtain ⟨nowhere, retired⟩ := shared.absent name (List.mem_cons_of_mem _ member)
      have differs : name ≠ cluster.name := fun same => distinct (same ▸ member)
      exact ⟨(others differs).trans nowhere, retired⟩
    once := once
    custody := by rintro _ _ _ ⟨⟩
    chosen := fun chosen => absurd chosen unchosen
    serving := fun chosen => absurd chosen unchosen
    listed := fun listed name slot found early => by
      rcases source found with ⟨_, rfl⟩ | kept
      · exact (early.elim (Nat.not_lt.mpr beyond) unlisted).elim
      · exact shared.listed listed name slot kept early
    pending := fun name member => by
      obtain ⟨lists, slot, found, has⟩ := shared.pending name member
      exact ⟨lists, slot, stays found, has⟩
    taken := fun other member => by
      obtain ⟨found, free, listed⟩ := shared.taken other member
      refine ⟨found, fun name slot holds => ?_, listed⟩
      rcases holds with active | retires
      · rcases source active with ⟨_, rfl⟩ | kept
        · rintro rfl
          exact untaken member
        · exact free name slot (.inl kept)
      · exact free name slot (.inr retires)
    routes := fun cleared => .inl ((shared.routes cleared).resolve_right fun late =>
      unchosen late.1) }

/-- It chooses its routes, which are active when it does. -/
theorem choose {order : List Cluster}
    (shared : Shared first zone { scope := order.map (·.name) } closing) :
    Shared first zone { scope := activeAmong order zone, chosen := true } closing := by
  have listed : ∀ {name}, name ∈ activeAmong order zone ↔
      name ∈ order.map (·.name) ∧ zone.active.contains name = true := List.mem_filter
  exact { shared with
    newcomers := fun name slot found new =>
      listed.mpr ⟨shared.newcomers name slot found new, NameTable.contains_of_find? found⟩
    absent := List.forall_mem_nil _
    custody := nofun
    chosen := fun _ => ⟨rfl, rfl⟩
    serving := fun _ name route => .inl (listed.mp route).2
    routes := fun cleared => .inl ((shared.routes cleared).resolve_right (by rintro ⟨⟨⟩, _⟩)) }

/-- It publishes the routes that it has chosen, whatever the closing has done since. -/
theorem publish {routes : List String}
    (shared : Shared first zone { scope := routes, chosen := true } closing) :
    Shared first (publishRoutes routes zone).2 { scope := routes, chosen := true } closing :=
  { shared with routes := fun _ => .inr ⟨rfl, Rotation.publish_names zone.rotation routes⟩ }

/-- What is active and no route retires. If the closing is over by then, nothing does. -/
theorem retire {routes removed : List String} {now : Stamp}
    (shared : Shared first zone { pass := .inside, scope := routes, chosen := true } closing)
    (retired : Retired routes now zone removed after) :
    Shared first after { pass := .inside, scope := routes, chosen := true } closing := by
  obtain ⟨done, begun⟩ := shared.outside shared.passes.alone
  have remains : ∀ {name slot}, after.active.find? name = some slot →
      name ∈ routes ∧ zone.active.find? name = some slot := by
    intro name slot found
    rw [retired.active] at found
    split at found
    · exact ⟨‹_›, found⟩
    · cases found
  have source : ∀ {name slot}, after.retiring.find? name = some slot →
      zone.retiring.find? name = some slot ∨ (name ∉ routes ∧
        ∃ former, zone.active.find? name = some former ∧ slot = former.restamp now) := by
    intro name slot found
    rw [retired.retiring] at found
    split at found
    · exact .inl found
    · rename_i stale
      cases active : zone.active.find? name with
      | none =>
        rw [active, Option.map_none, Option.none_or] at found
        exact .inl found
      | some former =>
        rw [active] at found
        exact .inr ⟨stale, former, rfl, (Option.some.inj found).symm⟩
  have came : ∀ {name slot}, after.Holds name slot → ∃ former, zone.Holds name former ∧
      slot.producer = former.producer := by
    rintro name slot (active | retires)
    · exact ⟨slot, .inl (remains active).2, rfl⟩
    · rcases source retires with kept | ⟨_, former, active, rfl⟩
      · exact ⟨slot, .inr kept, rfl⟩
      · exact ⟨former, .inl active, rfl⟩
  have stays : ∀ {name id since}, zone.Holds name ⟨id, since⟩ →
      ∃ since, after.Holds name ⟨id, since⟩ := by
    intro name id since holds
    by_cases route : name ∈ routes
    · refine ⟨since, holds.imp (fun active => ?_) fun retires => ?_⟩
      · rw [retired.active, if_pos route]
        exact active
      · rw [retired.retiring, if_pos route]
        exact retires
    · rcases holds with active | retires
      · refine ⟨now, .inr ?_⟩
        rw [retired.retiring, if_neg route, active]
        rfl
      · refine ⟨since, .inr ?_⟩
        rw [retired.retiring, if_neg route, shared.apart.inactive retires]
        exact retires
  -- Once the closing has drained and listed, what is active is a route.
  have settled : closing.listed ≠ none → after.active = zone.active := by
    intro listed
    refine NameTable.eq_of_find? fun name => ?_
    rw [retired.active]
    split
    · rfl
    · rename_i stale
      cases found : zone.active.find? name with
      | none => rfl
      | some slot => exact absurd (shared.latecomers done listed found).2.2 stale
  have fleet : after.fleet = zone.fleet := retired.beside.fleet
  have resorted : Resorted zone after := ⟨fleet, came, stays⟩
  have rotation : after.rotation = zone.rotation := by
    obtain ⟨_, _, _, rfl⟩ := retired.rest
    rfl
  constructor
  case readable => exact retired.beside.clock ▸ shared.readable
  case passes => exact retired.beside.bookkeeping ▸ shared.passes
  case apart =>
    intro name slot found
    obtain ⟨route, active⟩ := remains found
    rw [retired.retiring, if_pos route]
    exact shared.apart name slot active
  case backed => exact resorted.backed shared
  case held => exact resorted.held shared
  case settled => exact fleet ▸ shared.settled
  case earlier => exact fleet ▸ shared.earlier
  case spared => exact fleet ▸ shared.spared
  case newcomers => exact fun name slot found _ => (remains found).1
  case veterans =>
    intro name slot found
    rcases source found with kept | ⟨stale, former, active, rfl⟩
    · exact shared.veterans name slot kept
    · exact Nat.not_le.mp fun new => stale (shared.newcomers name former active new)
  case absent => exact List.forall_mem_nil _
  case once => exact shared.once
  case custody => exact nofun
  case chosen => exact shared.chosen
  case serving =>
    intro chosen name route
    refine (shared.serving chosen name route).imp_left fun active => ?_
    rw [NameTable.contains, retired.active, if_pos route]
    exact active
  case drained =>
    intro drains
    refine NameTable.eq_empty_of_find? fun name => ?_
    have gone : zone.retiring.find? name = none := by
      rw [shared.drained drains, NameTable.find?_empty]
    rw [retired.retiring, gone, Option.or_none, ite_eq_left_iff]
    intro stale
    cases found : zone.active.find? name with
    | none => rfl
    | some slot => exact absurd (shared.latecomers done (begun drains) found).2.2 stale
  case listed =>
    intro listed
    rw [settled listed]
    exact shared.listed listed
  case known => exact fleet ▸ shared.known
  case pending =>
    rw [done]
    exact List.forall_mem_nil _
  case pendingOnce => exact shared.pendingOnce
  case taken => exact resorted.taken shared
  case draining => exact shared.draining
  case emptying => exact shared.emptying
  case order => exact shared.order
  case finished => exact shared.finished
  case routes =>
    intro cleared
    rw [rotation]
    exact shared.routes cleared

end Shared

theorem shared_calm (first : ProducerId) : Calm (Shared first) :=
  fun _ _ _ _ still shared => shared.still still

variable {first : ProducerId}

private theorem revision_readClock {revision : Revision} {goal : Stamp → Revision → Prop}
    (holds : ∀ now, goal now revision) :
    readClock.Guards neighbourhood (Shared first) goal revision :=
  readClock_guards (fun _ _ shared => shared.readable) holds

/-- Work of a reconciliation behind the gate of the tables. -/
private theorem revision_inside {work : Program Zone α} (revision : Revision)
    (goal : α → Revision → Prop)
    (guards : work.Guards neighbourhood (Shared first)
      (fun value left => left.pass = .inside ∧ goal value { left with pass := .away })
      { revision with pass := .inside }) :
    (bookGate.inside work).Guards neighbourhood (Shared first) goal
      { revision with pass := .away } := by
  refine Guards.bind fun zone closing shared => ?_
  refine ⟨{ revision with pass := .waiting zone.bookkeeping.issued },
    shared.passRevision shared.passes.enter, ?_⟩
  refine .waitFor fun zone closing shared served => ?_
  refine ⟨{ revision with pass := .inside },
    shared.passRevision (shared.passes.admitted (beq_iff_eq.mp served)), ?_⟩
  refine .ending (guards.mono ?_)
  rintro value left ⟨inside, met⟩ zone closing shared
  have passes : Passes zone.bookkeeping .inside closing.pass := inside ▸ shared.passes
  exact ⟨{ left with pass := .away }, shared.passRevision passes.leave, met⟩

/-! One producer: it is asked for, and is in the hands of the reconciliation as soon as it is
built. -/


private theorem request_revises {cluster : Cluster} {revision : Revision}
    (idle : revision.custody = none) (unchosen : revision.chosen = false) :
    (perform (request cluster)).Guards neighbourhood (Shared first)
      (fun result later => match result with
        | .ok id => later = { revision with custody := some (id, cluster.name, .created) }
        | .error _ => later = revision) revision := by
  refine .perform fun zone closing shared => ?_
  cases refused : zone.fleet.refusingBuild.contains cluster.name with
  | true =>
    obtain ⟨fault, answer⟩ := request_refused refused
    rw [answer]
    exact ⟨revision, shared.still (.of_stations ⟨_, _, _, _, rfl⟩ fun _ => rfl), rfl⟩
  | false =>
    obtain ⟨producer, answer, begins⟩ := request_built refused
    have station : producer.beginStart.station = (cluster.name, .created) := by
      rw [begins]
      rfl
    rw [answer]
    exact ⟨_, shared.build idle unchosen (zone.asked cluster) rfl station, rfl⟩

/-- The start of a producer that was just built fails and leaves it as it was, or it runs. -/
private theorem finishStart_created {id : ProducerId} {zone : Zone} {producer : Producer}
    (found : zone.fleet.find? id = some producer) (created : producer.phase = .created) :
    (∃ fault, finishStart id zone = (.error fault, zone)) ∨
      ∃ journal, finishStart id zone = (.ok (), { zone with
        fleet := zone.fleet.update id fun _ => { producer with phase := .started }, journal }) := by
  have unchanged : (zone.fleet.update id fun _ => producer) = zone.fleet :=
    Fleet.update_unchanged fun other same => Option.some.inj (found.symm.trans same)
  cases refuses : producer.refusesStart with
  | true =>
    left
    simp [finishStart, withFleet, Fleet.finishStart, found, Producer.finishStart, refuses,
      unchanged]
  | false =>
    right
    simp [finishStart, withFleet, Fleet.finishStart, found, Producer.finishStart, refuses,
      created, Phase.start]

private theorem startProducer_revises {id : ProducerId} {cluster : Cluster} {revision : Revision}
    (idle : revision.custody = none) :
    (startProducer id).Guards neighbourhood (Shared first)
      (fun result later => match result with
        | .ok _ => later = { revision with custody := some (id, cluster.name, .started) }
        | .error _ => later = revision)
      { revision with custody := some (id, cluster.name, .created) } := by
  refine Guards.bind ((shared_calm first).modify (fun zone => ?_) ?_)
  · exact .of_stations ⟨_, _, _, _, rfl⟩ (Fleet.update_alike _ _ fun _ => rfl)
  refine Guards.bind (.look fun zone => Guards.bind (rest_guards _ ?_))
  refine .perform fun zone closing shared => ?_
  obtain ⟨⟨producer, found, station⟩, _⟩ := shared.custody id _ _ rfl
  have created : producer.phase = .created := congrArg Prod.snd station
  rcases finishStart_created found created with ⟨fault, ends⟩ | ⟨journal, ends⟩
  · rw [ends]
    refine ⟨{ revision with custody := none }, shared.giveUp nofun, ?_⟩
    rw [← idle]
  · rw [ends]
    have starts : { producer with phase := .started }.station = (cluster.name, .started) :=
      congrArg (·, Phase.started) (congrArg Prod.fst station)
    exact ⟨_, (shared.launch starts).still (.of_notes _ _ _ _ _ _), rfl⟩

private theorem publishFirst_still (topics : NameSet) (cluster : Cluster) (id : ProducerId)
    (zone : Zone) : Still zone (publishFirst topics cluster id zone) := by
  obtain ⟨⟨fleet, _, _, _, rest⟩, published⟩ := publishFirst_fleet topics cluster id zone
  rw [rest] at published ⊢
  refine ⟨rfl, rfl, rfl, rfl, fun same => same, Fleet.Alike.stations ?_⟩
  change Fleet.Alike Producer.life zone.fleet fleet
  change fleet = _ at published
  rw [published]
  split
  · exact .refl zone.fleet
  · rw [Fleet.publish_updates]
    exact Fleet.update_alike _ _ fun producer => Fleet.inform_life _ _ producer

/-- A producer that was created is in the hands of the reconciliation and runs. -/
private theorem createProducer_revises {topics : NameSet} {cluster : Cluster} {revision : Revision}
    (idle : revision.custody = none) (unchosen : revision.chosen = false) :
    (createProducer topics cluster).Guards neighbourhood (Shared first)
      (fun result later => match result with
        | .ok id => later = { revision with custody := some (id, cluster.name, .started) }
        | .error _ => later = revision) revision := by
  refine Guards.bind ((request_revises idle unchosen).mono ?_)
  rintro (fault | id) later rfl
  · rfl
  refine Guards.bind ((startProducer_revises idle).mono ?_)
  rintro (fault | _) later rfl
  · rfl
  refine Guards.bind ((shared_calm first).modify (fun zone => ?_) rfl)
  exact (publishFirst_still topics cluster id zone).trans (.of_notes _ _ _ _ _ _)

/-- All that is missing is built, started and made active, as far as it can be. -/
private theorem createAll_revises {topics : NameSet} {scope : List String}
    (missing : List Cluster) (creation : Creation) :
    (createAll topics creation missing).Guards neighbourhood (Shared first)
      (fun _ later => later = { scope }) { scope, missing := missing.map (·.name) } := by
  induction missing generalizing creation with
  | nil => exact rfl
  | cons cluster rest ih =>
    refine Guards.bind ((createProducer_revises rfl rfl).mono ?_)
    rintro (fault | id) later rfl
    · refine Guards.bind (.modify fun zone closing shared => ?_)
      exact ⟨{ scope, missing := rest.map (·.name) },
        (shared.still (.of_notes _ _ _ _ _ _)).skip rfl, ih _⟩
    · refine Guards.bind (revision_readClock fun now => ?_)
      refine Guards.bind (.perform fun zone closing shared => ?_)
      obtain ⟨inserted, active⟩ := shared.activate now
      rw [inserted]
      exact ⟨_, active, ih _⟩

private theorem conclude_still (summary : Summary) (zone : Zone) :
    Still zone (conclude summary zone) := by
  obtain ⟨_, _, rest⟩ := conclude_rest summary zone
  rw [rest]
  exact .of_notes zone _ _ _ _ _

private theorem adopt_revises {order : List Cluster} (once : (order.map (·.name)).Nodup) :
    (adopt order).Guards neighbourhood (Shared first) (fun _ later => later.custody = none)
      {} := by
  refine Guards.bind (Guards.mono (revision_inside {} (fun division later =>
    later = { scope := order.map (·.name), missing := division.missing.map (·.name) }) ?_) ?_)
  · refine Guards.bind (revision_readClock fun now => .perform fun zone closing shared => ?_)
    exact ⟨_, shared.divide (divide_divides now once zone) once, rfl, rfl⟩
  rintro division _ rfl
  refine Guards.bind (.look fun zone => Guards.bind ((createAll_revises _ _).mono ?_))
  rintro creation _ rfl
  refine Guards.bind (.get fun zone closing shared => ⟨_, shared.choose, ?_⟩)
  generalize activeAmong order zone = routes
  refine Guards.bind (.perform fun zone closing shared => ⟨_, shared.publish, ?_⟩)
  refine Guards.bind (Guards.mono (revision_inside
    { scope := routes, chosen := true } (fun _ later =>
      later = { scope := routes, chosen := true }) ?_) ?_)
  · refine Guards.bind (revision_readClock fun now => .perform fun zone closing shared => ?_)
    exact ⟨_, shared.retire (retireOthers_retires _ now zone), rfl, rfl⟩
  rintro removed _ rfl
  exact Guards.bind (.look fun zone => Guards.bind
    ((shared_calm first).modify (conclude_still _) rfl))

private theorem reconcileClusters_revises :
    reconcileClusters.Guards neighbourhood (Shared first) (fun _ later => later.custody = none)
      {} := by
  refine Guards.bind (fetch_guards fun result => ?_)
  cases result with
  | error fault => exact rfl
  | ok clusters =>
    refine Guards.bind (.look fun zone => ?_)
    dsimp only
    split
    · exact Guards.bind ((shared_calm first).modify (fun zone => .of_notes zone _ _ _ _ _) rfl)
    · exact Guards.bind ((adopt_revises (Cluster.firstOfEachName_first _).once).mono
        fun _ _ idle => idle)

/-! The other parts of a reload leave the tables and the routes alone. -/

private theorem absorbTopics_still (current : NameSet) (zone : Zone) :
    Still zone (absorbTopics current zone).2 := by
  have stations := (absorbTopics_informs current zone).2.lives.stations
  obtain ⟨_, _, _, _, rest⟩ := absorbTopics_rest current zone
  rw [rest] at stations ⊢
  exact .of_stations ⟨_, _, _, _, rfl⟩ stations

private theorem reconcileTopics_revises {revision : Revision}
    {goal : Except Fault Bool → Revision → Prop} (holds : ∀ result, goal result revision) :
    reconcileTopics.Guards neighbourhood (Shared first) goal revision := by
  refine Guards.bind (fetch_guards fun result => ?_)
  cases result with
  | error fault => exact holds _
  | ok current =>
    exact Guards.bind ((shared_calm first).perform (absorbTopics_still current) fun _ => holds _)

private theorem reloadFailed_still (event : Event) (zone : Zone) :
    Still zone (reloadFailed event zone) := .of_notes zone _ _ _ _ _

private theorem reload_revises :
    reload.Guards neighbourhood (Shared first) (fun _ later => later.custody = none) {} := by
  have calm := shared_calm first
  refine calm.insideReload (Guards.bind (reconcileClusters_revises.mono fun outcome left idle => ?_))
  have ends : (reloadTopics outcome).Guards neighbourhood (Shared first)
      (fun _ later => later.custody = none) left := by
    refine Guards.bind (reconcileTopics_revises fun result => ?_)
    have counts : (do
        .modify (count .reloads)
        return outcome.toOption : Program Zone (Option Summary)).Guards neighbourhood (Shared first)
          (fun _ later => later.custody = none) left :=
      Guards.bind (calm.modify (fun zone => .of_notes zone _ _ _ _ _) idle)
    cases result with
    | ok _ => exact counts
    | error fault => exact Guards.bind (calm.modify (reloadFailed_still _) counts)
  cases outcome with
  | ok summary => exact ends
  | error fault => exact Guards.bind (calm.modify (reloadFailed_still _) ends)

end Zone

/-- An errand that reconciles the clusters leaves nothing behind in its hands, whatever a closing
does meanwhile. -/
theorem Errand.realigns_revises {errand : Errand} (realigns : errand.realigns = true)
    {first : ProducerId} :
    errand.work.Guards Zone.neighbourhood (Zone.Shared first)
      (fun _ later => later.custody = none) {} := by
  cases errand with
  | reload => exact Program.Guards.bind Zone.reload_revises
  | reconcileClusters =>
    exact Program.Guards.bind
      ((Zone.shared_calm first).insideReload Zone.reconcileClusters_revises)
  | reconcileTopics | reclaim | dispatch | close => cases realigns

end ClusterPool
