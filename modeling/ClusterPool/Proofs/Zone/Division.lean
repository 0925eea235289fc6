import ClusterPool.Proofs.Tables
import ClusterPool.Proofs.Zone.Creation

/-! The sections of a reconciliation that only move producers between the tables: sorting the
selected clusters in, replacing the routes, and retiring the others. Each is described by what is
found under every name afterwards. -/
namespace ClusterPool

/-- Where the producer of a selected cluster comes from. -/
inductive Origin
  /-- It is active already. -/
  | kept
  /-- It retires, and comes back. -/
  | rescued
  /-- It is built and started. -/
  | created
  /-- A failure laid on the fleet keeps it from being built or started. -/
  | failed
  deriving DecidableEq

namespace Zone

/-- The numbers of the producers in a table, in the order of their clusters. -/
def idsOf (held : Holdings) : List ProducerId := held.entries.map (·.2.producer)

theorem mem_idsOf {table : Holdings} {id : ProducerId} :
    id ∈ idsOf table ↔ ∃ name slot, table.find? name = some slot ∧ slot.producer = id := by
  simp only [idsOf, List.mem_map, NameTable.find?_eq_some_iff]
  constructor
  · rintro ⟨⟨name, slot⟩, member, rfl⟩
    exact ⟨name, slot, member, rfl⟩
  · rintro ⟨name, slot, member, rfl⟩
    exact ⟨(name, slot), member, rfl⟩

/-- Where a zone would take the producer of a cluster from. -/
def origin (zone : Zone) (cluster : String) : Origin :=
  if zone.active.contains cluster then .kept
  else if zone.retiring.contains cluster then .rescued
  else if zone.fleet.refuses cluster then .failed
  else .created

section
variable {zone : Zone} {cluster : String}

theorem origin_kept_iff : zone.origin cluster = .kept ↔ zone.active.contains cluster = true := by
  cases active : zone.active.contains cluster <;> cases retires : zone.retiring.contains cluster <;>
    cases refused : zone.fleet.refuses cluster <;> simp [origin, active, retires, refused]

theorem origin_rescued_iff : zone.origin cluster = .rescued ↔
    zone.active.contains cluster = false ∧ zone.retiring.contains cluster = true := by
  cases active : zone.active.contains cluster <;> cases retires : zone.retiring.contains cluster <;>
    cases refused : zone.fleet.refuses cluster <;> simp [origin, active, retires, refused]

theorem origin_failed_iff : zone.origin cluster = .failed ↔
    zone.active.contains cluster = false ∧ zone.retiring.contains cluster = false ∧
      zone.fleet.refuses cluster = true := by
  cases active : zone.active.contains cluster <;> cases retires : zone.retiring.contains cluster <;>
    cases refused : zone.fleet.refuses cluster <;> simp [origin, active, retires, refused]

theorem origin_created_iff : zone.origin cluster = .created ↔
    zone.active.contains cluster = false ∧ zone.retiring.contains cluster = false ∧
      zone.fleet.refuses cluster = false := by
  cases active : zone.active.contains cluster <;> cases retires : zone.retiring.contains cluster <;>
    cases refused : zone.fleet.refuses cluster <;> simp [origin, active, retires, refused]

end

/-- The names of the clusters of one origin, in the order of selection. -/
def ofOrigin (zone : Zone) (origin : Origin) (order : List Cluster) : List String :=
  (order.filter fun cluster => zone.origin cluster.name = origin).map (·.name)

theorem mem_ofOrigin {zone : Zone} {origin : Origin} {order : List Cluster} {name : String} :
    name ∈ zone.ofOrigin origin order ↔ name ∈ order.map (·.name) ∧ zone.origin name = origin := by
  simp only [ofOrigin, List.mem_map, List.mem_filter, decide_eq_true_eq]
  constructor
  · rintro ⟨cluster, ⟨member, comes⟩, rfl⟩
    exact ⟨⟨cluster, member, rfl⟩, comes⟩
  · rintro ⟨⟨cluster, member, rfl⟩, comes⟩
    exact ⟨cluster, ⟨member, comes⟩, rfl⟩

/-- The clusters that have no producer yet. -/
def missing (zone : Zone) (order : List Cluster) : List Cluster :=
  order.filter fun cluster =>
    !zone.active.contains cluster.name && !zone.retiring.contains cluster.name

/-- Of the missing clusters, those that no failure concerns are created. -/
theorem created_missing (zone : Zone) (order : List Cluster) :
    ((zone.missing order).filter fun cluster => !zone.fleet.refuses cluster.name).map (·.name) =
      zone.ofOrigin .created order := by
  rw [Zone.missing, List.filter_filter, ofOrigin]
  congr 1
  refine List.filter_congr fun cluster _ => ?_
  rw [Bool.eq_iff_iff, decide_eq_true_eq, origin_created_iff, ← and_assoc, and_comm]
  simp

theorem failed_missing (zone : Zone) (order : List Cluster) :
    ((zone.missing order).filter fun cluster => zone.fleet.refuses cluster.name).map (·.name) =
      zone.ofOrigin .failed order := by
  rw [Zone.missing, List.filter_filter, ofOrigin]
  congr 1
  refine List.filter_congr fun cluster _ => ?_
  rw [Bool.eq_iff_iff, decide_eq_true_eq, origin_failed_iff, ← and_assoc, and_comm]
  simp

private theorem ofOrigin_append (zone : Zone) (origin : Origin) (first second : List Cluster) :
    zone.ofOrigin origin first ++ zone.ofOrigin origin second =
      zone.ofOrigin origin (first ++ second) := by
  simp [ofOrigin]

private theorem missing_append (zone : Zone) (first second : List Cluster) :
    zone.missing first ++ zone.missing second = zone.missing (first ++ second) := by
  simp [Zone.missing]

/-- What a change of the tables leaves alone. -/
structure Beside (before after : Zone) : Prop where
  name : after.name = before.name
  fleet : after.fleet = before.fleet
  topics : after.topics = before.topics
  clock : after.clock = before.clock
  reloading : after.reloading = before.reloading
  bookkeeping : after.bookkeeping = before.bookkeeping

private theorem beside_of_tables {before after : Zone}
    (rest : ∃ active retiring tally, after = { before with active, retiring, tally }) :
    Beside before after := by
  obtain ⟨_, _, _, rfl⟩ := rest
  exact ⟨rfl, rfl, rfl, rfl, rfl, rfl⟩

/-- How the tables and the division stand after the selected clusters are sorted in: `earlier` is
the division before. -/
structure Divided (now : Stamp) (order : List Cluster) (earlier : Division) (before : Zone)
    (division : Division) (after : Zone) : Prop where
  rest : ∃ active retiring tally, after = { before with active, retiring, tally }
  active : ∀ name, after.active.find? name = (before.active.find? name).or
    (if name ∈ order.map (·.name) then (before.retiring.find? name).map (·.restamp now) else none)
  retiring : ∀ name, after.retiring.find? name =
    if name ∈ order.map (·.name) ∧ before.active.contains name = false then none
    else before.retiring.find? name
  unchanged : division.unchanged = earlier.unchanged ++ before.ofOrigin .kept order
  rescued : division.rescued = earlier.rescued ++ before.ofOrigin .rescued order
  missing : division.missing = earlier.missing ++ before.missing order

/-- Sorting one cluster in, which leaves the entries under all other names alone. -/
private theorem classify_divides (now : Stamp) (earlier : Division) (cluster : Cluster)
    (zone : Zone) :
    Divided now [cluster] earlier zone (classify now earlier cluster zone).1
      (classify now earlier cluster zone).2 := by
  unfold classify Holdings.take?
  cases active : zone.active.contains cluster.name with
  | true =>
    obtain ⟨slot, found⟩ := NameTable.contains_iff.mp active
    simp only [↓reduceIte]
    constructor
    case rest => exact ⟨_, _, _, rfl⟩
    case active =>
      intro name
      by_cases same : name = cluster.name <;> simp [same, found]
    case retiring =>
      intro name
      by_cases same : name = cluster.name <;> simp [same, active]
    all_goals simp [ofOrigin, Zone.missing, origin, active]
  | false =>
    have absent := NameTable.contains_eq_false_iff.mp active
    cases found : zone.retiring.find? cluster.name with
    | some slot =>
      have retires := NameTable.contains_of_find? found
      simp only [Bool.false_eq_true, ↓reduceIte, Option.map_some]
      constructor
      case rest => exact ⟨_, _, _, rfl⟩
      case active =>
        intro name
        by_cases same : name = cluster.name <;> simp [same, found, absent]
      case retiring =>
        intro name
        by_cases same : name = cluster.name <;> simp [same, active]
      all_goals simp [ofOrigin, Zone.missing, origin, active, retires]
    | none =>
      have gone := NameTable.contains_eq_false_iff.mpr found
      simp only [Bool.false_eq_true, ↓reduceIte, Option.map_none]
      constructor
      case rest => exact ⟨_, _, _, rfl⟩
      case active =>
        intro name
        by_cases same : name = cluster.name <;> simp [same, found, absent]
      case retiring =>
        intro name
        by_cases same : name = cluster.name <;> simp [same, found]
      all_goals
        cases refused : zone.fleet.refuses cluster.name <;>
          simp [ofOrigin, Zone.missing, origin, active, gone, refused]

namespace Divided

variable {now : Stamp} {cluster : Cluster} {order : List Cluster} {earlier between : Division}
  {before middle : Zone}

theorem beside {division : Division} {after : Zone}
    (divided : Divided now order earlier before division after) : Beside before after :=
  beside_of_tables divided.rest

/-- A cluster that is missing is still not active when all are sorted in. -/
theorem inactive {division : Division} {after : Zone}
    (divided : Divided now order earlier before division after)
    (member : cluster ∈ before.missing order) : after.active.contains cluster.name = false := by
  obtain ⟨_, nowhere⟩ := List.mem_filter.mp member
  simp only [Bool.and_eq_true, Bool.not_eq_eq_eq_not, Bool.not_true] at nowhere
  have notActive := NameTable.contains_eq_false_iff.mp nowhere.1
  have notRetiring := NameTable.contains_eq_false_iff.mp nowhere.2
  rw [NameTable.contains_eq_false_iff, divided.active, notActive, notRetiring]
  simp

/-- The entries under other names stay when one cluster is sorted in. -/
private theorem apart (first : Divided now [cluster] earlier before between middle)
    {name : String} (other : name ≠ cluster.name) :
    middle.active.find? name = before.active.find? name ∧
      middle.retiring.find? name = before.retiring.find? name ∧
      middle.origin name = before.origin name := by
  have active := first.active name
  have retiring := first.retiring name
  simp only [List.map_cons, List.map_nil, List.mem_singleton, other, false_and, if_false,
    Option.or_none] at active retiring
  have fleet := first.beside.fleet
  have isActive : middle.active.contains name = before.active.contains name := by
    rw [NameTable.contains, active, NameTable.contains]
  have retires : middle.retiring.contains name = before.retiring.contains name := by
    rw [NameTable.contains, retiring, NameTable.contains]
  refine ⟨active, retiring, ?_⟩
  rw [origin, isActive, retires, fleet, origin]

/-- Sorting in one cluster after the other, none of them twice. -/
private theorem cons {division : Division} {after : Zone}
    (first : Divided now [cluster] earlier before between middle)
    (absent : cluster.name ∉ order.map (·.name))
    (others : Divided now order between middle division after) :
    Divided now (cluster :: order) earlier before division after := by
  have differs : ∀ other ∈ order, other.name ≠ cluster.name := fun other member same =>
    absent (List.mem_map.mpr ⟨other, member, same⟩)
  have origins : ∀ origin, middle.ofOrigin origin order = before.ofOrigin origin order := by
    intro origin
    unfold ofOrigin
    rw [List.filter_congr fun other member => by rw [(first.apart (differs other member)).2.2]]
  have missing : middle.missing order = before.missing order := by
    refine List.filter_congr fun other member => ?_
    obtain ⟨active, retiring, _⟩ := first.apart (differs other member)
    simp only [NameTable.contains, active, retiring]
  constructor
  case rest =>
    obtain ⟨_, _, _, rfl⟩ := first.rest
    obtain ⟨_, _, _, rfl⟩ := others.rest
    exact ⟨_, _, _, rfl⟩
  case active =>
    intro name
    rw [others.active]
    by_cases same : name = cluster.name
    · subst same
      rw [if_neg absent, first.active]
      simp
    · obtain ⟨active, retiring, _⟩ := first.apart same
      rw [active, retiring]
      simp [same]
  case retiring =>
    intro name
    rw [others.retiring]
    by_cases same : name = cluster.name
    · subst same
      rw [if_neg fun both => absent both.1, first.retiring]
      simp
    · obtain ⟨active, retiring, _⟩ := first.apart same
      simp [NameTable.contains, active, retiring, same]
  case unchanged =>
    rw [others.unchanged, first.unchanged, origins, List.append_assoc, ofOrigin_append]
    rfl
  case rescued =>
    rw [others.rescued, first.rescued, origins, List.append_assoc, ofOrigin_append]
    rfl
  case missing =>
    rw [others.missing, first.missing, missing, List.append_assoc, missing_append]
    rfl

end Divided

/-- Sorting all selected clusters in, if no name comes twice. -/
theorem divide_divides (now : Stamp) {order : List Cluster} (once : (order.map (·.name)).Nodup)
    (zone : Zone) :
    Divided now order {} zone (divide now order zone).1 (divide now order zone).2 := by
  unfold divide
  generalize ({} : Division) = earlier
  induction order generalizing earlier zone with
  | nil => exact ⟨⟨_, _, _, rfl⟩, by simp, by simp, by simp [ofOrigin], by simp [ofOrigin],
      by simp [Zone.missing]⟩
  | cons cluster rest ih =>
    obtain ⟨absent, once⟩ := List.nodup_cons.mp once
    exact (classify_divides now earlier cluster zone).cons absent (ih once _ _)

/-- How the tables stand after the retirement of what is no route: the entries of routes are where
they were, and all other active ones went over with the time at which they did. -/
structure Retired (routes : List String) (now : Stamp) (before : Zone) (removed : List String)
    (after : Zone) : Prop where
  rest : ∃ active retiring tally, after = { before with active, retiring, tally }
  active : ∀ name, after.active.find? name =
    if name ∈ routes then before.active.find? name else none
  retiring : ∀ name, after.retiring.find? name =
    if name ∈ routes then before.retiring.find? name
    else ((before.active.find? name).map (·.restamp now)).or (before.retiring.find? name)
  removed : removed = before.active.names.filter fun name => !routes.contains name

theorem Retired.beside {routes removed : List String} {now : Stamp} {before after : Zone}
    (retired : Retired routes now before removed after) : Beside before after :=
  beside_of_tables retired.rest

theorem retireOthers_retires (routes : List String) (now : Stamp) (zone : Zone) :
    Retired routes now zone (retireOthers routes now zone).1 (retireOthers routes now zone).2 where
  rest := ⟨_, _, _, rfl⟩
  active name := by
    rw [retireOthers, NameTable.find?_filter_names]
    simp
  retiring name := by
    rw [retireOthers, NameTable.find?_foldl_insert (Slot.restamp · now),
      NameTable.find?_filter_names zone.active fun other => !routes.contains other]
    by_cases route : name ∈ routes <;> simp [route]
  removed := NameTable.names_filter zone.active fun name => !routes.contains name

end Zone
end ClusterPool
