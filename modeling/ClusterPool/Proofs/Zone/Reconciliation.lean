import ClusterPool.Proofs.Zone.Division

/-! What a reconciliation of the clusters comes to when nothing else goes on in the zone: every
selected cluster is served from where its producer was, or by a new one, or failed; and all other
clusters retire. -/
namespace ClusterPool
open Program

namespace Rotation

theorem publish_names (rotation : Rotation) (names : List String) :
    (rotation.publish names).2.names = names := by
  unfold publish
  split
  · rename_i same
    exact same
  · rfl

theorem publish_changed (rotation : Rotation) (names : List String) :
    (rotation.publish names).1 = decide (rotation.names ≠ names) := by
  unfold publish
  split <;> rename_i same <;> simp [same]

end Rotation

namespace Cluster

/-- `order` has the names of `clusters`, each once and where it comes first, and for each name the
cluster that comes first under it. -/
structure FirstOfEach (clusters order : List Cluster) : Prop where
  names : order.map (·.name) = (clusters.map (·.name)).eraseDups
  once : (order.map (·.name)).Nodup
  first : ∀ cluster ∈ order, clusters.find? (fun other => other.name == cluster.name) = some cluster

private theorem go_names (seen : List String) (clusters : List Cluster) :
    (firstOfEachName.go seen clusters).map (·.name) =
      ((clusters.map (·.name)).filter fun name => !seen.contains name).eraseDups := by
  induction clusters generalizing seen with
  | nil => rfl
  | cons cluster rest ih =>
    unfold firstOfEachName.go
    rw [List.map_cons]
    split
    · rename_i old
      rw [ih, List.filter_cons_of_neg (by simp [List.contains_iff_mem.mp old])]
    · rename_i new
      rw [List.map_cons, ih, List.filter_cons_of_pos (by simpa using new), List.eraseDups_cons,
        List.filter_filter]
      congr 2
      refine List.filter_congr fun name _ => ?_
      rw [List.contains_cons, Bool.not_or]

/-- What is kept has a name that was not seen, and comes first under it. -/
private theorem go_first {seen : List String} {clusters : List Cluster} {cluster : Cluster}
    (member : cluster ∈ firstOfEachName.go seen clusters) : cluster.name ∉ seen ∧
      clusters.find? (fun other => other.name == cluster.name) = some cluster := by
  induction clusters generalizing seen with
  | nil => cases member
  | cons head rest ih =>
    unfold firstOfEachName.go at member
    split at member
    · rename_i old
      obtain ⟨unseen, first⟩ := ih member
      have other : head.name ≠ cluster.name := fun same =>
        unseen (same ▸ List.contains_iff_mem.mp old)
      exact ⟨unseen, by rw [List.find?_cons_of_neg (by simpa using other), first]⟩
    · rename_i new
      rcases List.mem_cons.mp member with rfl | later
      · exact ⟨fun seen => new (List.contains_iff_mem.mpr seen), by simp⟩
      · obtain ⟨unseen, first⟩ := ih later
        have other : head.name ≠ cluster.name := fun same => unseen (same ▸ List.mem_cons_self)
        exact ⟨fun seen => unseen (List.mem_cons_of_mem _ seen),
          by rw [List.find?_cons_of_neg (by simpa using other), first]⟩

private theorem go_once (seen : List String) (clusters : List Cluster) :
    ((firstOfEachName.go seen clusters).map (·.name)).Nodup := by
  induction clusters generalizing seen with
  | nil => exact List.nodup_nil
  | cons cluster rest ih =>
    unfold firstOfEachName.go
    split
    · exact ih seen
    · refine List.nodup_cons.mpr ⟨?_, ih _⟩
      rintro member
      obtain ⟨other, inside, same⟩ := List.mem_map.mp member
      exact (go_first inside).1 (same ▸ List.mem_cons_self)

theorem firstOfEachName_first (clusters : List Cluster) :
    FirstOfEach clusters (firstOfEachName clusters) where
  names := by
    rw [firstOfEachName, go_names, List.filter_eq_self.mpr (by simp)]
  once := go_once [] clusters
  first _ member := (go_first member).2

end Cluster

namespace Zone

/-- Nobody is behind a gate of the zone, and its clock can be read. -/
structure Idle (zone : Zone) : Prop where
  reload : zone.reloading.isFree = true
  book : zone.bookkeeping.isFree = true
  readable : zone.clock.broken = false

theorem reloadGate_lawful : reloadGate.Lawful := fun _ _ => rfl

theorem bookGate_lawful : bookGate.Lawful := fun _ _ => rfl

/-- Whoever was admitted to a free turnstile leaves it free. -/
theorem leave_enter_isFree {turnstile : Turnstile} (free : turnstile.isFree = true) :
    turnstile.enter.leave.isFree = true := by
  simpa [Turnstile.isFree, Turnstile.enter, Turnstile.leave] using free

/-- No cluster is both active and retiring. -/
def Apart (zone : Zone) : Prop :=
  ∀ name slot, zone.active.find? name = some slot → zone.retiring.find? name = none

theorem Apart.inactive {zone : Zone} (apart : zone.Apart) {name : String} {slot : Slot}
    (retires : zone.retiring.find? name = some slot) : zone.active.find? name = none := by
  cases active : zone.active.find? name with
  | none => rfl
  | some other =>
    rw [apart name other active] at retires
    cases retires

/-- The names of the clusters of `order` that a zone can serve, as far as no failure keeps it from
it. -/
def servable (zone : Zone) (order : List Cluster) : List String :=
  (order.filter fun cluster => zone.origin cluster.name ≠ .failed).map (·.name)

theorem mem_servable {zone : Zone} {order : List Cluster} {name : String} :
    name ∈ zone.servable order ↔
      name ∈ order.map (·.name) ∧ zone.origin name ≠ .failed := by
  simp only [servable, List.mem_map, List.mem_filter, decide_eq_true_eq]
  constructor
  · rintro ⟨cluster, ⟨member, origin⟩, rfl⟩
    exact ⟨⟨cluster, member, rfl⟩, origin⟩
  · rintro ⟨⟨cluster, member, rfl⟩, origin⟩
    exact ⟨cluster, ⟨member, origin⟩, rfl⟩

/-- The summary of a reconciliation of a zone with the clusters of `order`. -/
def summaryOf (zone : Zone) (order : List Cluster) : Summary where
  pool := zone.name
  routes := zone.servable order
  unchanged := zone.ofOrigin .kept order
  rescued := zone.ofOrigin .rescued order
  created := zone.ofOrigin .created order
  failed := zone.ofOrigin .failed order
  removed := zone.active.names.filter fun name => name ∉ order.map (·.name)
  routingChanged := zone.rotation.names ≠ zone.servable order

/-- What a reconciliation of a zone with the clusters of `order` comes to. -/
structure Reconciled (order : List Cluster) (before : Zone) (summary : Summary) (after : Zone) :
    Prop where
  rest : ∃ active retiring fleet rotation tally journal reloading bookkeeping elapsed ready, after =
    { before with
      active, retiring, fleet, rotation, tally, journal, reloading, bookkeeping
      clock := { before.clock with elapsed }, catalog := { before.catalog with ready } }
  active : ∀ name, after.active.contains name = true ↔ name ∈ before.servable order
  kept : ∀ name ∈ order.map (·.name), ∀ slot, before.active.find? name = some slot →
    after.active.find? name = some slot
  rescued : ∀ name ∈ order.map (·.name), ∀ slot, before.active.find? name = none →
    before.retiring.find? name = some slot →
      after.active.find? name = some (slot.restamp before.clock.now)
  created : ∀ cluster ∈ order, before.origin cluster.name = .created →
    ∃ id since, after.active.find? cluster.name = some ⟨id, since⟩ ∧
      before.fleet.producers.length ≤ id ∧
      after.fleet.find? id = some (before.fleet.running before.name before.topics cluster)
  retiring : ∀ name, after.retiring.find? name =
    if name ∈ order.map (·.name) then none
    else ((before.active.find? name).map (·.restamp after.clock.now)).or
      (before.retiring.find? name)
  routes : after.rotation.names = before.servable order
  fleet : after.fleet = before.enlist before.topics (before.missing order)
  held : ∀ id producer, before.fleet.producers.length ≤ id → after.fleet.find? id = some producer →
    producer.phase = .started → ∃ since, after.active.find? producer.cluster.name = some ⟨id, since⟩
  summary : summary = before.summaryOf order

namespace Reconciled

variable {order : List Cluster} {before after : Zone} {summary : Summary}
  (reconciled : Reconciled order before summary after)

include reconciled

/-- Where the slot of an active cluster comes from. -/
theorem source {name : String} {slot : Slot} (found : after.active.find? name = some slot) :
    ∃ cluster ∈ order, cluster.name = name ∧
      (before.active.find? name = some slot ∨
        (before.active.find? name = none ∧ ∃ former, before.retiring.find? name = some former ∧
          slot = former.restamp before.clock.now) ∨
        (before.fleet.producers.length ≤ slot.producer ∧ after.fleet.find? slot.producer =
          some (before.fleet.running before.name before.topics cluster))) := by
  obtain ⟨inside, origin⟩ :=
    mem_servable.mp ((reconciled.active name).mp (NameTable.contains_of_find? found))
  obtain ⟨cluster, member, rfl⟩ := List.mem_map.mp inside
  refine ⟨cluster, member, rfl, ?_⟩
  cases comes : before.origin cluster.name with
  | kept =>
    obtain ⟨former, kept⟩ := NameTable.contains_iff.mp (origin_kept_iff.mp comes)
    have same := reconciled.kept cluster.name inside former kept
    rw [found] at same
    exact .inl (same ▸ kept)
  | rescued =>
    obtain ⟨notActive, retires⟩ := origin_rescued_iff.mp comes
    obtain ⟨former, retired⟩ := NameTable.contains_iff.mp retires
    have absent := NameTable.contains_eq_false_iff.mp notActive
    have same := reconciled.rescued cluster.name inside former absent retired
    rw [found] at same
    exact .inr (.inl ⟨absent, former, retired, Option.some.inj same⟩)
  | created =>
    obtain ⟨id, since, same, beyond, built⟩ := reconciled.created cluster member comes
    rw [found] at same
    cases same
    exact .inr (.inr ⟨beyond, built⟩)
  | failed => exact absurd comes origin

/-- Where the slot of a retiring cluster comes from. -/
theorem ledgerSource {name : String} {slot : Slot} (found : after.retiring.find? name = some slot) :
    name ∉ order.map (·.name) ∧
      ((∃ former, before.active.find? name = some former ∧
          slot = former.restamp after.clock.now) ∨
        before.retiring.find? name = some slot) := by
  rw [reconciled.retiring] at found
  split at found
  · cases found
  · rename_i outside
    refine ⟨outside, ?_⟩
    cases active : before.active.find? name with
    | none => exact .inr (by simpa [active] using found)
    | some former =>
      rw [active] at found
      exact .inl ⟨former, rfl, (Option.some.inj found).symm⟩

/-- A producer that was there before is the same afterwards. -/
theorem find?_earlier {id : ProducerId} (earlier : id < before.fleet.producers.length) :
    after.fleet.find? id = before.fleet.find? id := by
  rw [reconciled.fleet]
  exact List.getElem?_append_left earlier

/-- A producer that was held before is the same afterwards. -/
theorem find?_known {id : ProducerId} {producer : Producer}
    (found : before.fleet.find? id = some producer) : after.fleet.find? id = some producer :=
  (reconciled.find?_earlier (List.getElem?_eq_some_iff.mp found).1).trans found

end Reconciled

/-- How the tables stand once the selected clusters are sorted in and the missing producers are
built, before the routes are replaced. -/
private structure Served (order : List Cluster) (before middle : Zone) : Prop where
  rest : ∃ active retiring fleet tally journal bookkeeping elapsed, middle =
    { before with
      active, retiring, fleet, tally, journal, bookkeeping
      clock := { before.clock with elapsed } }
  others : ∀ name, name ∉ order.map (·.name) →
    middle.active.find? name = before.active.find? name
  kept : ∀ name ∈ order.map (·.name), ∀ slot, before.active.find? name = some slot →
    middle.active.find? name = some slot
  rescued : ∀ name ∈ order.map (·.name), ∀ slot, before.active.find? name = none →
    before.retiring.find? name = some slot →
      middle.active.find? name = some (slot.restamp before.clock.now)
  created : ∀ cluster ∈ order, before.origin cluster.name = .created →
    ∃ id since, middle.active.find? cluster.name = some ⟨id, since⟩ ∧
      before.fleet.producers.length ≤ id ∧
      middle.fleet.find? id = some (before.fleet.running before.name before.topics cluster)
  failed : ∀ cluster ∈ order, before.origin cluster.name = .failed →
    middle.active.find? cluster.name = none
  retiring : ∀ name, middle.retiring.find? name =
    if name ∈ order.map (·.name) ∧ before.active.contains name = false then none
    else before.retiring.find? name
  fleet : middle.fleet = before.enlist before.topics (before.missing order)
  held : ∀ id producer, before.fleet.producers.length ≤ id → middle.fleet.find? id = some producer →
    producer.phase = .started → producer.cluster ∈ order ∧
      ∃ since, middle.active.find? producer.cluster.name = some ⟨id, since⟩

private theorem served {order : List Cluster} {before divided middle : Zone} {division : Division}
    {shut opened : Turnstile}
    (sorted : Divided before.clock.now order {} { before with bookkeeping := shut } division
      divided)
    (staffed : Staffed before.topics division.missing { divided with bookkeeping := opened }
      middle) :
    Served order before middle := by
  have missing : division.missing = before.missing order := sorted.missing
  rw [missing] at staffed
  have active : ∀ name, divided.active.find? name = (before.active.find? name).or
      (if name ∈ order.map (·.name) then
        (before.retiring.find? name).map (·.restamp before.clock.now) else none) := sorted.active
  have fleet : divided.fleet = before.fleet := sorted.beside.fleet
  have named : divided.name = before.name := sorted.beside.name
  -- Creation leaves every name alone that is not the name of a created cluster.
  have untouched : ∀ name, before.origin name ≠ .created →
      middle.active.find? name = divided.active.find? name := by
    rintro name notCreated
    apply staffed.others name
    rintro cluster member accepted rfl
    obtain ⟨_, nowhere⟩ := List.mem_filter.mp member
    simp only [Bool.and_eq_true, Bool.not_eq_eq_eq_not, Bool.not_true] at nowhere
    refine notCreated (origin_created_iff.mpr ⟨nowhere.1, nowhere.2, ?_⟩)
    rw [← fleet]
    exact accepted
  constructor
  case rest =>
    obtain ⟨_, _, _, rfl⟩ := sorted.rest
    obtain ⟨_, _, _, _, _, rfl⟩ := staffed.rest
    exact ⟨_, _, _, _, _, _, _, rfl⟩
  case others =>
    intro name outside
    rw [staffed.others, active, if_neg outside, Option.or_none]
    rintro cluster member _ rfl
    exact outside (List.mem_map.mpr ⟨cluster, (List.mem_filter.mp member).1, rfl⟩)
  case kept =>
    intro name inside slot found
    have isActive := NameTable.contains_of_find? found
    rw [untouched name (by simp [origin_kept_iff.mpr isActive]), active, found, Option.some_or]
  case rescued =>
    intro name inside slot absent found
    have origin := origin_rescued_iff.mpr
      ⟨NameTable.contains_eq_false_iff.mpr absent, NameTable.contains_of_find? found⟩
    rw [untouched name (by simp [origin]), active, absent, if_pos inside, found, Option.none_or,
      Option.map_some]
  case created =>
    intro cluster inside origin
    obtain ⟨notActive, notRetiring, accepted⟩ := origin_created_iff.mp origin
    obtain ⟨id, since, found, beyond, built⟩ := staffed.serves cluster
      (List.mem_filter.mpr ⟨inside, by simp [notActive, notRetiring]⟩)
      (by exact fleet ▸ accepted)
    exact ⟨id, since, found, fleet ▸ beyond, by rw [built]; exact fleet ▸ named ▸ rfl⟩
  case failed =>
    intro cluster inside origin
    obtain ⟨notActive, notRetiring, _⟩ := origin_failed_iff.mp origin
    rw [untouched cluster.name (by simp [origin]), active,
      NameTable.contains_eq_false_iff.mp notActive, NameTable.contains_eq_false_iff.mp notRetiring]
    simp
  case retiring =>
    intro name
    have same : middle.retiring = divided.retiring := by
      obtain ⟨_, _, _, _, _, rfl⟩ := staffed.rest
      rfl
    rw [same]
    exact sorted.retiring name
  case fleet =>
    rw [staffed.fleet]
    obtain ⟨_, _, _, rfl⟩ := sorted.rest
    rfl
  case held =>
    intro id producer beyond found started
    obtain ⟨member, holds⟩ := staffed.held id producer (by exact fleet ▸ beyond) found started
    exact ⟨(List.mem_filter.mp member).1, holds⟩

namespace Served

variable {order : List Cluster} {before middle : Zone}

/-- A selected cluster is active in the middle of a reconciliation unless it failed. -/
private theorem contains (served : Served order before middle) {cluster : Cluster}
    (member : cluster ∈ order) :
    middle.active.contains cluster.name = decide (before.origin cluster.name ≠ .failed) := by
  have inside : cluster.name ∈ order.map (·.name) := List.mem_map_of_mem member
  cases origin : before.origin cluster.name with
  | kept =>
    obtain ⟨slot, found⟩ := NameTable.contains_iff.mp (origin_kept_iff.mp origin)
    simpa using NameTable.contains_of_find? (served.kept _ inside slot found)
  | rescued =>
    obtain ⟨notActive, retires⟩ := origin_rescued_iff.mp origin
    obtain ⟨slot, found⟩ := NameTable.contains_iff.mp retires
    have absent := NameTable.contains_eq_false_iff.mp notActive
    simpa using NameTable.contains_of_find? (served.rescued _ inside slot absent found)
  | created =>
    obtain ⟨id, since, found, _⟩ := served.created cluster member origin
    simpa using NameTable.contains_of_find? found
  | failed => simpa using NameTable.contains_eq_false_iff.mpr (served.failed cluster member origin)

private theorem routes (served : Served order before middle) :
    (order.map (·.name)).filter (fun name => middle.active.contains name) =
      before.servable order := by
  rw [servable, List.filter_map]
  congr 1
  exact List.filter_congr fun cluster member => served.contains member

/-- The active clusters that are no routes are those that were active and are not selected. -/
private theorem removed (served : Served order before middle) :
    middle.active.names.filter (fun name => !(before.servable order).contains name) =
      before.active.names.filter fun name => name ∉ order.map (·.name) := by
  have stale : middle.active.filter (fun name _ => !(before.servable order).contains name) =
      before.active.filter fun name _ => name ∉ order.map (·.name) := by
    refine NameTable.eq_of_find? fun name => ?_
    rw [NameTable.find?_filter_names, NameTable.find?_filter_names before.active]
    by_cases inside : name ∈ order.map (·.name)
    · obtain ⟨cluster, member, rfl⟩ := List.mem_map.mp inside
      have serves := served.contains member
      by_cases origin : before.origin cluster.name = .failed
      · have absent : before.active.find? cluster.name = none :=
          NameTable.contains_eq_false_iff.mp (origin_failed_iff.mp origin).1
        rw [served.failed cluster member origin, absent, ite_self, ite_self]
      · have route : cluster.name ∈ before.servable order := mem_servable.mpr ⟨inside, origin⟩
        simp [route, inside]
    · have noRoute : name ∉ before.servable order := fun route => inside (mem_servable.mp route).1
      simp [served.others name inside, noRoute, inside]
  rw [← NameTable.names_filter, stale, NameTable.names_filter]

end Served

/-- Concluding only reports, and at most notes that the backend is ready. -/
theorem conclude_rest (summary : Summary) (zone : Zone) : ∃ journal ready,
    conclude summary zone = { zone with journal, catalog := { zone.catalog with ready } } := by
  unfold conclude
  split
  · split <;> exact ⟨_, _, rfl⟩
  · split <;> exact ⟨_, _, rfl⟩

/-- Retirement and the new routes complete what was begun by serving the selected clusters. -/
private theorem Served.reconciled {order : List Cluster} {before middle retired : Zone}
    {removed : List String} {shut opened : Turnstile} (apart : before.Apart)
    (served : Served order before middle)
    (retires : Retired (before.servable order) middle.clock.now
      { middle with
        rotation := (middle.rotation.publish (before.servable order)).2, bookkeeping := shut }
      removed retired) (journal : List Note) (ready : Bool) :
    Reconciled order before (before.summaryOf order)
      { retired with
        bookkeeping := opened, journal, catalog := { retired.catalog with ready } } := by
  have active : ∀ name, retired.active.find? name =
      if name ∈ before.servable order then middle.active.find? name else none := retires.active
  have route : ∀ {name slot}, middle.active.find? name = some slot →
      name ∈ order.map (·.name) → retired.active.find? name = some slot := by
    intro name slot found inside
    obtain ⟨cluster, member, rfl⟩ := List.mem_map.mp inside
    have serves := served.contains member
    rw [NameTable.contains_of_find? found] at serves
    rw [active, if_pos (mem_servable.mpr ⟨inside, by simpa using serves.symm⟩), found]
  have fleet : retired.fleet = middle.fleet := retires.beside.fleet
  constructor
  case rest =>
    obtain ⟨_, _, _, rfl⟩ := retires.rest
    obtain ⟨_, _, _, _, _, _, _, rfl⟩ := served.rest
    exact ⟨_, _, _, _, _, _, _, _, _, _, rfl⟩
  case active =>
    intro name
    change retired.active.contains name = true ↔ _
    by_cases member : name ∈ before.servable order
    · obtain ⟨inside, origin⟩ := mem_servable.mp member
      obtain ⟨cluster, selected, rfl⟩ := List.mem_map.mp inside
      have serves := served.contains selected
      rw [NameTable.contains, active, if_pos member]
      simpa [member, origin, NameTable.contains] using serves
    · rw [NameTable.contains, active, if_neg member]
      simp [member]
  case kept =>
    intro name inside slot found
    exact route (served.kept name inside slot found) inside
  case rescued =>
    intro name inside slot absent found
    exact route (served.rescued name inside slot absent found) inside
  case created =>
    intro cluster member origin
    obtain ⟨id, since, found, beyond, built⟩ := served.created cluster member origin
    exact ⟨id, since, route found (List.mem_map_of_mem member), beyond, fleet ▸ built⟩
  case retiring =>
    intro name
    have retiring : retired.retiring.find? name = if name ∈ before.servable order then
        middle.retiring.find? name else ((middle.active.find? name).map
          (·.restamp middle.clock.now)).or (middle.retiring.find? name) := retires.retiring name
    have clock : retired.clock = middle.clock := retires.beside.clock
    change retired.retiring.find? name = _
    rw [retiring, clock]
    by_cases inside : name ∈ order.map (·.name)
    · rw [if_pos inside]
      -- A selected cluster that was active has no entry under retirement; any other was taken out.
      have gone : middle.retiring.find? name = none := by
        rw [served.retiring]
        split
        · rfl
        · rename_i wasActive
          cases found : before.active.find? name with
          | none => exact absurd ⟨inside, NameTable.contains_eq_false_iff.mpr found⟩ wasActive
          | some slot => exact apart name slot found
      split
      · exact gone
      · rename_i noRoute
        obtain ⟨cluster, selected, rfl⟩ := List.mem_map.mp inside
        have failed : before.origin cluster.name = .failed :=
          Classical.not_not.mp fun origin => noRoute (mem_servable.mpr ⟨inside, origin⟩)
        rw [gone, served.failed cluster selected failed]
        rfl
    · have noRoute : name ∉ before.servable order := fun member =>
        inside (mem_servable.mp member).1
      rw [if_neg inside, if_neg noRoute, served.others name inside, served.retiring]
      simp [inside]
  case routes =>
    obtain ⟨_, _, _, rfl⟩ := retires.rest
    exact Rotation.publish_names _ _
  case fleet => exact fleet.trans served.fleet
  case held =>
    intro id producer beyond found started
    obtain ⟨member, since, holds⟩ := served.held id producer beyond (fleet ▸ found) started
    exact ⟨since, route holds (List.mem_map_of_mem member)⟩
  case summary => rfl

/-- Letting a moment pass that has passed already changes nothing. -/
@[simp] theorem passUntil_zero (zone : Zone) : passUntil 0 zone = zone := by
  simp [passUntil, Clock.waitUntil]

/-- A slow catalog is waited for, and then answers like any other. -/
@[simp] theorem attains_fetch {part : Inventory → α} {goal : Except Fault α → Zone → Prop}
    {zone : Zone} : (fetch part).Attains passUntil goal zone ↔
      goal (zone.catalog.fetch.map part) zone := by
  simp only [fetch, bind_eq_bind, attains_bind, attains_get]
  split
  · simp only [stepAside, attains_bind, attains_sleepUntil, attains_get, passUntil_zero]
    exact attains_done
  · simp only [pure_eq_done, attains_bind, attains_get]
    exact attains_done

private theorem sort_attains {order : List Cluster} (once : (order.map (·.name)).Nodup)
    {zone : Zone} (free : zone.bookkeeping.isFree = true) (readable : zone.clock.broken = false) :
    (bookGate.inside do
      let now ← readClock
      .perform (divide now order)).Attains passUntil
      (fun division after => ∃ divided, after = bookGate.leave divided ∧
        Divided zone.clock.now order {} (bookGate.update Turnstile.enter zone) division divided)
      zone := by
  apply (Gate.attains_inside bookGate_lawful free).mpr
  refine attains_bind.mpr ((attains_readClock (by exact readable)).mpr (attains_perform.mpr ?_))
  exact ⟨_, rfl, divide_divides zone.clock.now once _⟩

private theorem retire_attains {routes : List String} {zone : Zone}
    (free : zone.bookkeeping.isFree = true) (readable : zone.clock.broken = false) :
    (bookGate.inside do
      let now ← readClock
      .perform (retireOthers routes now)).Attains passUntil
      (fun removed after => ∃ retired, after = bookGate.leave retired ∧
        Retired routes zone.clock.now (bookGate.update Turnstile.enter zone) removed retired)
      zone := by
  apply (Gate.attains_inside bookGate_lawful free).mpr
  refine attains_bind.mpr ((attains_readClock (by exact readable)).mpr (attains_perform.mpr ?_))
  exact ⟨_, rfl, retireOthers_retires routes zone.clock.now _⟩

/-- Bringing a zone in line comes to its end, whichever clusters fail. -/
theorem adopt_attains {order : List Cluster} (once : (order.map (·.name)).Nodup) {zone : Zone}
    (apart : zone.Apart) (free : zone.bookkeeping.isFree = true)
    (readable : zone.clock.broken = false) :
    (adopt order).Attains passUntil (fun summary after => Reconciled order zone summary after ∧
      after.reloading = zone.reloading ∧ after.bookkeeping.isFree = true) zone := by
  unfold adopt
  refine attains_bind.mpr ((sort_attains once free readable).mono ?_)
  rintro division _ ⟨divided, rfl, sorted⟩
  have missing : division.missing = zone.missing order := sorted.missing
  have unchanged : division.unchanged = zone.ofOrigin .kept order := sorted.unchanged
  have rescued : division.rescued = zone.ofOrigin .rescued order := sorted.rescued
  have onceMissing : (division.missing.map (·.name)).Nodup := by
    rw [missing]
    exact once.sublist (List.filter_sublist.map _)
  have topics : divided.topics = zone.topics := sorted.beside.topics
  have clock : divided.clock = zone.clock := sorted.beside.clock
  have inactive : ∀ cluster ∈ division.missing, divided.active.contains cluster.name = false := by
    intro cluster member
    rw [missing] at member
    exact sorted.inactive member
  refine attains_bind.mpr (attains_get.mpr (attains_bind.mpr ((createAll_attains _ _ onceMissing
    {} _ (by exact inactive) (by exact clock ▸ readable)).mono ?_)))
  rintro creation middle ⟨staffed, overtaken, created, failed⟩
  have served := served sorted (by exact topics ▸ staffed)
  have rest : middle.bookkeeping = zone.bookkeeping.enter.leave ∧
      middle.reloading = zone.reloading ∧ middle.clock.broken = zone.clock.broken ∧
      middle.rotation = zone.rotation ∧ middle.name = zone.name := by
    obtain ⟨_, _, _, rfl⟩ := sorted.rest
    obtain ⟨_, _, _, _, _, rfl⟩ := staffed.rest
    exact ⟨rfl, rfl, rfl, rfl, rfl⟩
  obtain ⟨book, reloading, broken, rotation, named⟩ := rest
  have chosen : activeAmong order middle = zone.servable order := served.routes
  have published : publishRoutes (zone.servable order) middle =
      (decide (zone.rotation.names ≠ zone.servable order),
        { middle with rotation := (middle.rotation.publish (zone.servable order)).2 }) := by
    simp only [publishRoutes, withRotation, Rotation.publish_changed, rotation]
  refine attains_bind.mpr (attains_get.mpr ?_)
  rw [chosen]
  refine attains_bind.mpr (attains_perform.mpr ?_)
  rw [published]
  refine attains_bind.mpr ((retire_attains (by exact book ▸ leave_enter_isFree free)
    (by exact broken ▸ readable)).mono ?_)
  rintro removed _ ⟨retired, rfl, retires⟩
  refine attains_bind.mpr (attains_get.mpr (attains_bind.mpr (attains_modify.mpr
    (attains_done.mpr ?_))))
  have summary : ({
      pool := (bookGate.leave retired).name, routes := zone.servable order
      routingChanged := decide (zone.rotation.names ≠ zone.servable order), removed
      created := creation.created, failed := creation.failed
      rescued := division.rescued, unchanged := division.unchanged ++ creation.overtaken } :
      Summary) = zone.summaryOf order := by
    have name : (bookGate.leave retired).name = zone.name := retires.beside.name.trans named
    have fleet : (bookGate.leave divided).fleet = zone.fleet := sorted.beside.fleet
    rw [fleet, missing] at created failed
    rw [summaryOf, name, unchanged, overtaken, List.append_nil, rescued,
      retires.removed.trans served.removed,
      created.trans (created_missing zone order), failed.trans (failed_missing zone order)]
  obtain ⟨journal, ready, concluded⟩ :=
    conclude_rest (zone.summaryOf order) (bookGate.leave retired)
  rw [summary, concluded]
  refine ⟨served.reconciled apart retires journal ready, ?_, ?_⟩
  · exact retires.beside.reloading.trans reloading
  · change retired.bookkeeping.leave.isFree = true
    rw [retires.beside.bookkeeping]
    exact leave_enter_isFree (book ▸ leave_enter_isFree free)

/-- The clusters that a zone would bring itself in line with. -/
def selected (zone : Zone) (clusters : List Cluster) : List Cluster :=
  Cluster.firstOfEachName (zone.selection.select clusters)

theorem selected_eq_nil_iff {zone : Zone} {clusters : List Cluster} :
    zone.selected clusters = [] ↔ zone.selection.select clusters = [] := by
  have first := Cluster.firstOfEachName_first (zone.selection.select clusters)
  constructor
  · intro none
    refine List.eq_nil_iff_forall_not_mem.mpr fun cluster member => ?_
    have covered : cluster.name ∈ (zone.selected clusters).map (·.name) := by
      rw [selected, first.names, List.mem_eraseDups]
      exact List.mem_map_of_mem member
    rw [none] at covered
    cases covered
  · intro none
    rw [selected, none]
    rfl

/-- A reconciliation of the clusters, behind the reload gate. -/
theorem reconcileClusters_attains (zone : Zone) {inventory : Inventory}
    (fetched : zone.catalog.fetch = .ok inventory)
    (apart : zone.Apart) (free : zone.bookkeeping.isFree = true)
    (readable : zone.clock.broken = false) :
    reconcileClusters.Attains passUntil (fun result after => ∃ summary, result = .ok summary ∧
      after.reloading = zone.reloading ∧ after.bookkeeping.isFree = true ∧
      if zone.selection.select inventory.clusters = [] then
        summary = { pool := zone.name } ∧ after = report .selectionEmpty zone
      else Reconciled (zone.selected inventory.clusters) zone summary after) zone := by
  unfold reconcileClusters
  refine attains_bind.mpr (attains_fetch.mpr ?_)
  rw [fetched]
  refine attains_bind.mpr (attains_get.mpr ?_)
  by_cases none : zone.selection.select inventory.clusters = []
  · simp only [none, List.isEmpty_nil, ↓reduceIte]
    exact attains_bind.mpr (attains_modify.mpr (attains_done.mpr ⟨_, rfl, rfl, free, rfl, rfl⟩))
  · have once := (Cluster.firstOfEachName_first (zone.selection.select inventory.clusters)).once
    simp only [List.isEmpty_iff, if_neg none]
    refine attains_bind.mpr ((adopt_attains once apart free readable).mono ?_)
    rintro summary after ⟨reconciled, reloading, free⟩
    exact attains_done.mpr ⟨summary, rfl, reloading, free, reconciled⟩

end Zone
end ClusterPool
