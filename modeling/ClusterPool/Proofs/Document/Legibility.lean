import ClusterPool.Proofs.Document.Records
import ClusterPool.Proofs.Document.Writing

/-! Every spelling of a value is read as that value. For lists, sets and tables this is inherited from
what they hold, and for records from their fields, so that each part of a document may be spelled in its
own way. -/
namespace ClusterPool.Document

/-- Types whose readers take each spelling of a value for that value. -/
class Legible (α : Type) [Spelled α] [Documented α] : Prop where
  takes : ∀ (value : α) (core : List Char), Spelled.form value core →
    Takes Documented.read value core

/-- A document is read as the value that its reader takes, if only gaps are around. -/
theorem decode_of_takes [Documented α] {value : α} {text : String}
    (padded : Padded (Takes Documented.read value) text.toList) : decode α text = .ok value := by
  obtain ⟨before, core, after, early, takes, late, same⟩ := padded
  have ends : Ends after := List.append_nil after ▸ Ends.nil.gaps late
  have none : dropGaps after = [] :=
    (congrArg dropGaps (List.append_nil after)).symm.trans (late.dropped [])
  rw [decode, same]
  change (Documented.read (before ++ (core ++ after)) >>= _) = _
  rw [takes.reads before after early ends]
  simp only [bind, Except.bind, none, List.isEmpty_nil, ↓reduceIte]
  rfl

theorem decode_eq [Spelled α] [Documented α] [Legible α] {value : α} {text : String}
    (spells : Spells value text) : decode α text = .ok value :=
  decode_of_takes (spells.mono (Legible.takes value))

instance : Legible String := ⟨fun _ _ => text_takes⟩

instance : Legible UInt64 where
  takes value core same := by
    subst same
    refine (unsigned_takes (by decide) value.toNat_lt).bind fun rest => ?_
    rw [Nat.toUInt64, UInt64.ofNat_toNat]
    rfl

instance : Legible UInt32 where
  takes value core same := by
    subst same
    refine (unsigned_takes (by decide) value.toNat_lt).bind fun rest => ?_
    rw [Nat.toUInt32, UInt32.ofNat_toNat]
    rfl

instance : Legible Int64 where
  takes value core same := by
    subst same
    refine (signed_takes value.minValue_le_toInt value.toInt_le).bind fun rest => ?_
    rw [Int64.ofInt_toInt]
    rfl

instance [Spelled α] [Documented α] [Legible α] : Legible (List α) where
  takes _ _ listed := list_takes (listed.mono Legible.takes)

instance : Legible NameSet where
  takes set core := by
    rintro ⟨names, rfl, listed⟩
    exact (list_takes (listed.mono fun _ _ => text_takes)).bind fun rest => rfl

instance : Legible (NameTable String) where
  takes table core := by
    rintro ⟨entries, rfl, tabled⟩
    exact table_takes (tabled.mono fun _ _ => text_takes)

/-- Bytes are read from the list of their values. -/
theorem bytes_takes (bytes : List UInt8) (core : List Char) (spelled : Spelled.form bytes core) :
    Takes Reader.bytes bytes core := by
  have byte : ∀ (value : UInt8) core, Spelled.form value core →
      Takes (do return (← Reader.unsigned 8).toUInt8) value core := by
    rintro value _ rfl
    refine (unsigned_takes (by decide) value.toNat_lt).bind fun rest => ?_
    rw [Nat.toUInt8, UInt8.ofNat_toNat]
    rfl
  obtain ⟨parts, takes, gaps, within, rfl⟩ := Listed.mono byte spelled
  refine ⟨⟨_, _, rfl, rfl, by decide⟩, fun before rest early _ => ?_⟩
  rw [List.cons_append, List.append_assoc, List.append_assoc]
  refine (Reader.bind_eq (Reader.peek_eq '[' _ early rfl)).trans ?_
  refine (Reader.bind_eq (Reader.advance_eq _ _)).trans ?_
  exact elements_eq takes within rest

/-! Records. -/

/-- The nanoseconds of a length of time stay below one second, and so none of them is carried. -/
theorem durationOf_eq (span : Duration) :
    durationOf (span.seconds, UInt32.ofNat span.nanos.val) = .ok span := by
  have below := span.nanos.isLt
  have whole : span.seconds.toNat + span.nanos.val / 1000000000 = span.seconds.toNat := by omega
  have part : span.nanos.val % 1000000000 = span.nanos.val := Nat.mod_eq_of_lt below
  have fits : span.seconds.toNat < UInt64.size := span.seconds.toNat_lt
  simp only [durationOf, span.nanos_toNat, whole, part, fits, ↓reduceIte]
  rw [Nat.toUInt64, UInt64.ofNat_toNat]

def durationPlaces (span : Duration) : List (Place (UInt64 × UInt32)) := [
  .needed "secs" Documented.read (fun seconds parts => (seconds, parts.2)) span.seconds,
  .needed "nanos" Documented.read (fun nanos parts => (parts.1, nanos))
    (UInt32.ofNat span.nanos.val)]

theorem duration_fills (span : Duration) : Fills durationLayout (durationPlaces span) span where
  fields := rfl
  fits := by
    simp only [durationPlaces, List.forall_mem_cons]
    exact ⟨.needed (Legible.takes _), .needed (Legible.takes _), List.forall_mem_nil _⟩
  once := by decide
  apart := by simp [durationPlaces, Place.Apart, Place.needed]
  finished := durationOf_eq span

instance : Legible Duration := ⟨fun span _ recorded => record_takes (duration_fills span) recorded⟩

end Document
open Document

namespace Settings

def places (settings : Settings) : List (Place Settings) := [
  .needed "grace_period" Documented.read (fun grace settings => { settings with grace })
    settings.grace,
  .needed "reload_interval" Documented.read
    (fun reloadEvery settings => { settings with reloadEvery }) settings.reloadEvery,
  .needed "reclaim_interval" Documented.read
    (fun reclaimEvery settings => { settings with reclaimEvery }) settings.reclaimEvery]

theorem fills (settings : Settings) : Fills layout settings.places settings where
  fields := rfl
  fits := by
    simp only [places, List.forall_mem_cons]
    exact ⟨.needed (Legible.takes _), .needed (Legible.takes _), .needed (Legible.takes _),
      List.forall_mem_nil _⟩
  once := by decide
  apart := by simp [places, Place.Apart, Place.needed]
  finished := rfl

instance : Legible Settings := ⟨fun settings _ recorded => record_takes settings.fills recorded⟩

end Settings

namespace Node

def places (node : Node) : List (Place Node) := [
  .needed "node_id" Documented.read (fun id node => { node with id }) node.id,
  .optional "producer_settings" Documented.read
    (fun producerSettings node => { node with producerSettings }) node.producerSettings .empty]

theorem fills (node : Node) : Fills layout node.places node where
  fields := rfl
  fits := by
    simp only [places, List.forall_mem_cons]
    exact ⟨.needed (Legible.takes _), .optional (Legible.takes _) rfl, List.forall_mem_nil _⟩
  once := by decide
  apart := by simp [places, Place.Apart, Place.needed, Place.optional]
  finished := rfl

instance : Legible Node := ⟨fun node _ recorded => record_takes node.fills recorded⟩

end Node

namespace Cluster

def places (cluster : Cluster) : List (Place Cluster) := [
  .needed "cluster_name" Documented.read (fun name cluster => { cluster with name }) cluster.name,
  .needed "url" Documented.read (fun url cluster => { cluster with url }) cluster.url,
  .optional "params" Documented.read (fun params cluster => { cluster with params }) cluster.params
    .empty]

theorem fills (cluster : Cluster) : Fills layout cluster.places cluster where
  fields := rfl
  fits := by
    simp only [places, List.forall_mem_cons]
    exact ⟨.needed (Legible.takes _), .needed (Legible.takes _), .optional (Legible.takes _) rfl,
      List.forall_mem_nil _⟩
  once := by decide
  apart := by simp [places, Place.Apart, Place.needed, Place.optional]
  finished := rfl

instance : Legible Cluster := ⟨fun cluster _ recorded => record_takes cluster.fills recorded⟩

end Cluster

namespace Inventory

def places (inventory : Inventory) : List (Place Inventory) := [
  .optional "clusters" Documented.read (fun clusters inventory => { inventory with clusters })
    inventory.clusters [],
  .optional "topics" Documented.read (fun topics inventory => { inventory with topics })
    inventory.topics .empty]

theorem fills (inventory : Inventory) : Fills layout inventory.places inventory where
  fields := rfl
  fits := by
    simp only [places, List.forall_mem_cons]
    exact ⟨.optional (Legible.takes _) rfl, .optional (Legible.takes _) rfl,
      List.forall_mem_nil _⟩
  once := by decide
  apart := by simp [places, Place.Apart, Place.optional]
  finished := rfl

instance : Legible Inventory := ⟨fun inventory _ recorded => record_takes inventory.fills recorded⟩

end Inventory

namespace Batch

def places (batch : Batch) : List (Place Batch) := [
  .needed "group_id" Documented.read (fun group batch => { batch with group }) batch.group,
  .needed "stream_id" Documented.read (fun stream batch => { batch with stream }) batch.stream,
  .needed "topic" Documented.read (fun topic batch => { batch with topic }) batch.topic,
  .needed "payload" Reader.bytes (fun payload batch => { batch with payload }) batch.payload,
  .needed "message_count" Documented.read (fun messages batch => { batch with messages })
    batch.messages,
  .needed "dispatch_time_ms" Documented.read (fun dispatchedAt batch => { batch with dispatchedAt })
    batch.dispatchedAt]

theorem fills (batch : Batch) : Fills layout batch.places batch where
  fields := rfl
  fits := by
    simp only [places, List.forall_mem_cons]
    exact ⟨.needed (Legible.takes _), .needed (Legible.takes _), .needed (Legible.takes _),
      .needed (bytes_takes _), .needed (Legible.takes _), .needed (Legible.takes _),
      List.forall_mem_nil _⟩
  once := by decide
  apart := by simp [places, Place.Apart, Place.needed]
  finished := rfl

instance : Legible Batch := ⟨fun batch _ recorded => record_takes batch.fills recorded⟩

end Batch

namespace Tally

def places (tally : Tally) : List (Place Tally) := Counted.all.map fun event =>
  .needed event.name Documented.read (fun value tally => tally.set value event) (tally.get event)

/-- Counts of different events are apart, and the count of one event is set twice to the same. -/
theorem places_apart (tally : Tally) : tally.places.Pairwise Place.Apart := by
  refine List.pairwise_map.mpr (List.pairwise_of_forall fun first second record => ?_)
  cases first <;> cases second <;> rfl

theorem filled_places (tally : Tally) : filled tally.places {} = tally := by
  simp only [filled, places, Place.needed, Counted.all, List.map_cons, List.map_nil, List.foldl_cons,
    List.foldl_nil, set, get]

theorem fills (tally : Tally) : Fills layout tally.places tally where
  fields := by
    rw [places, List.map_map]
    rfl
  fits := List.forall_mem_map.mpr fun event _ => .needed (Legible.takes _)
  once := by decide
  apart := tally.places_apart
  finished := congrArg Except.ok tally.filled_places

instance : Legible Tally := ⟨fun tally _ recorded => record_takes tally.fills recorded⟩

end Tally

namespace Document

/-- However a document spells a value, it is read as that value. The fields of a record may come in any
order, with gaps between any two parts and with well-formed values of any depth under other names, or
they may stand in a list, and those that are empty by default may be missing. Each record inside may be
spelled in its own way. -/
theorem decode_spells :
    (∀ (cluster : Cluster) (text : String), Spells cluster text →
      decode Cluster text = .ok cluster) ∧
    (∀ (node : Node) (text : String), Spells node text → decode Node text = .ok node) ∧
    (∀ (inventory : Inventory) (text : String), Spells inventory text →
      decode Inventory text = .ok inventory) ∧
    (∀ (settings : Settings) (text : String), Spells settings text →
      decode Settings text = .ok settings) ∧
    (∀ (batch : Batch) (text : String), Spells batch text → decode Batch text = .ok batch) ∧
    ∀ (tally : Tally) (text : String), Spells tally text → decode Tally text = .ok tally :=
  ⟨fun _ _ => decode_eq, fun _ _ => decode_eq, fun _ _ => decode_eq, fun _ _ => decode_eq,
    fun _ _ => decode_eq, fun _ _ => decode_eq⟩

/-- Two clusters without parameters, and no topics. -/
def twoClusters : Inventory :=
  { clusters := [{ name := "b", url := "v" }, { name := "a", url := "u" }] }

/-- A list of lists, except that one cluster is an object with its fields in another order, an escape
in one of them and an unknown field before them. -/
def mixedDocument : String :=
  " [[[\"b\",\"v\"],\x7b\"x\":[1e2],\"url\":\"\\u0075\",\"cluster_name\":\"a\"\x7d]]"

private theorem twoClusters_spelled : Spells twoClusters mixedDocument := by
  have listed : Spelled.form ({ name := "b", url := "v" } : Cluster)
      (writtenList [writtenText "b", writtenText "v"]) := by
    refine .inr ⟨[.needed "cluster_name" "b", .needed "url" "v"],
      [.optional "params" (.empty : NameTable String) .empty], _, rfl, ?_, ?_, enclosed_tight ..⟩
    · exact List.forall_mem_singleton.mpr rfl
    · exact .cons (.tight (writtenText_quoted _)) (.cons (.tight (writtenText_quoted _)) .nil)
  have number : AnyNumber ['1', 'e', '2'] := by
    have whole : Digits ['1'] := ⟨by decide, List.forall_mem_singleton.mpr (by decide)⟩
    have power : Digits ['2'] := ⟨by decide, List.forall_mem_singleton.mpr (by decide)⟩
    exact ⟨[], ['1'], [], ['e', '2'], by decide, ⟨whole, by decide⟩, .inl rfl,
      .inr ⟨'e', [], ['2'], by decide, by decide, power, rfl⟩, rfl⟩
  have unknown : Keyed "x" (WellFormed .value)
      (writtenText "x" ++ ':' :: ['[', '1', 'e', '2', ']']) :=
    .tight (.enclosed (.last (.element .nil (.number number) .nil)))
  have escaped : Quoted "u" ['"', '\\', 'u', '0', '0', '7', '5', '"'] := by
    have unit : HexUnit 'u'.toNat ['0', '0', '7', '5'] :=
      ⟨_, _, _, _, rfl, ⟨by decide, by decide⟩, ⟨by decide, by decide⟩, ⟨by decide, by decide⟩,
        ⟨by decide, by decide⟩⟩
    exact ⟨[_], .cons (.unit unit) .nil, rfl⟩
  have object : Spelled.form ({ name := "a", url := "u" } : Cluster)
      (enclosed '\x7b' '\x7d' [writtenText "x" ++ ':' :: ['[', '1', 'e', '2', ']'],
        writtenText "url" ++ ':' :: ['"', '\\', 'u', '0', '0', '7', '5', '"'],
        writtenText "cluster_name" ++ ':' :: writtenText "a"]) := by
    refine .inl ⟨[.needed "url" "u", .needed "cluster_name" "a"],
      [.optional "params" (.empty : NameTable String) .empty], _, .swap .., ?_, ?_,
      enclosed_tight ..⟩
    · exact List.forall_mem_singleton.mpr rfl
    · exact .unknown rfl (by decide) unknown
        (.known (.tight escaped) (.known (.tight (writtenText_quoted _)) .nil))
  have clusters : Spelled.form twoClusters.clusters _ :=
    ⟨_, .cons (.tight listed) (.cons (.tight object) .nil), enclosed_tight ..⟩
  have inventory : Spelled.form twoClusters _ :=
    .inr ⟨[.optional "clusters" twoClusters.clusters []],
      [.optional "topics" (.empty : NameSet) .empty], _, rfl, List.forall_mem_singleton.mpr rfl,
      .cons (.tight clusters) .nil, enclosed_tight ..⟩
  have gap : Gaps [' '] := List.forall_mem_singleton.mpr (by decide)
  exact ⟨[' '], _, [], gap, inventory, .nil, by decide⟩

/-- A document that mixes the spellings. -/
theorem decode_spells_mixed : Spells twoClusters mixedDocument ∧
    decode Inventory mixedDocument = .ok twoClusters :=
  ⟨twoClusters_spelled, decode_spells.2.2.1 twoClusters mixedDocument twoClusters_spelled⟩

end Document
end ClusterPool
