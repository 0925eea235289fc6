import ClusterPool.Proofs.Document.Spelling
import ClusterPool.Proofs.Tables

/-! What is written is a spelling. It has no gaps, escapes no more than it must, and gives the fields of
a record under their names and in their order. Only the entries of a table have no order of their own,
and may be written in any. -/
namespace ClusterPool.Document

private theorem digitChar_hex {value : Nat} (small : value < 16) :
    HexDigit value (Nat.digitChar value) := ⟨small, .inl rfl⟩

/-- The first two of the four digits of a control character are zeros. -/
private theorem control_unit {unit : Nat} (control : unit < 0x20) :
    HexUnit unit ['0', '0', Nat.digitChar (unit / 16), Nat.digitChar (unit % 16)] := by
  have first : unit / 4096 = 0 := by omega
  have second : unit / 256 % 16 = 0 := by omega
  have third : unit / 16 % 16 = unit / 16 := by omega
  refine ⟨'0', '0', _, _, rfl, ?_, ?_, ?_, digitChar_hex (by omega)⟩
  · rw [first]
    exact digitChar_hex (by decide)
  · rw [second]
    exact digitChar_hex (by decide)
  · rw [third]
    exact digitChar_hex (by omega)

theorem writtenChar_spelled (c : Char) : CharSpelled c (writtenChar c) := by
  by_cases escaped : c ∈ ['"', '\\', '\x08', '\x0c', '\n', '\r', '\t']
  · simp only [List.mem_cons, List.not_mem_nil, or_false] at escaped
    rcases escaped with rfl | rfl | rfl | rfl | rfl | rfl | rfl <;> exact .short (by decide)
  · simp only [List.mem_cons, List.not_mem_nil, or_false, not_or] at escaped
    obtain ⟨quote, slash, back, form, line, return_, tab⟩ := escaped
    simp only [writtenChar, quote, slash, back, form, line, return_, tab, ↓reduceIte]
    split
    · rename_i control
      exact .unit (control_unit control)
    · rename_i printable
      exact .plain (Nat.not_lt.mp printable) quote slash

theorem writtenText_quoted (text : String) : Quoted text (writtenText text) := by
  refine ⟨text.toList.map writtenChar, ?_, rfl⟩
  exact List.forall₂_map_right_iff.mpr (List.forall₂_same.mpr fun c _ => writtenChar_spelled c)

/-- Parts that are written one after another have no gaps before them. -/
theorem enclosed_tight (opening closing : Char) (parts : List (List Char)) :
    Enclosed opening closing parts (enclosed opening closing parts) :=
  ⟨[], List.forall_mem_nil _, rfl⟩

theorem Padded.tight {form : List Char → Prop} {text : List Char} (spelled : form text) :
    Padded form text :=
  ⟨[], text, [], List.forall_mem_nil _, spelled, List.forall_mem_nil _, by simp⟩

theorem Keyed.tight {name : String} {form : List Char → Prop} {text : List Char}
    (spelled : form text) : Keyed name form (writtenText name ++ ':' :: text) :=
  ⟨[], _, [], text, List.forall_mem_nil _, writtenText_quoted name, List.forall_mem_nil _,
    .tight spelled, rfl⟩

theorem writtenList_listed {form : α → List Char → Prop} {write : α → List Char}
    (spelled : ∀ value, form value (write value)) (values : List α) :
    Listed form values (writtenList (values.map write)) :=
  ⟨_, List.forall₂_map_right_iff.mpr (List.forall₂_same.mpr fun value _ => .tight (spelled value)),
    enclosed_tight ..⟩

theorem writtenObject_tabled {form : α → List Char → Prop} {write : α → List Char}
    (spelled : ∀ value, form value (write value)) (entries : List (String × α)) :
    Tabled form entries (writtenObject (entries.map fun entry => (entry.1, write entry.2))) := by
  refine ⟨_, ?_, enclosed_tight ..⟩
  rw [List.map_map]
  exact List.forall₂_map_right_iff.mpr
    (List.forall₂_same.mpr fun entry _ => .tight (spelled entry.2))

/-- An object with all fields of a record in their order. -/
theorem writtenObject_recorded {closed : Bool} {entries : List Entry}
    {written : List (String × List Char)}
    (spelled : List.Forall₂ (fun entry member => entry.name = member.1 ∧ entry.form member.2)
      entries written) : Recorded closed entries (writtenObject written) := by
  refine .inl ⟨entries, [], _, by simp, List.forall_mem_nil _, ?_, enclosed_tight ..⟩
  generalize entries.map Entry.name = known
  induction spelled with
  | nil => exact .nil
  | @cons entry member _ _ head _ ih =>
    exact .known (head.1 ▸ .tight head.2) ih

/-- Types in which every value is written as a spelling of it. -/
class Written (α : Type) [Spelled α] [Documented α] : Prop where
  spelled : ∀ value : α, Spelled.form value (Documented.write value)

instance : Written String := ⟨writtenText_quoted⟩

instance : Written UInt64 := ⟨fun _ => rfl⟩

instance : Written UInt32 := ⟨fun _ => rfl⟩

instance : Written Int64 := ⟨fun _ => rfl⟩

instance [Spelled α] [Documented α] [Written α] : Written (List α) :=
  ⟨writtenList_listed Written.spelled⟩

instance : Written NameSet :=
  ⟨fun set => ⟨set.names, NameSet.empty_union set, writtenList_listed writtenText_quoted _⟩⟩

/-- A table as it is written, if its entries come in some order. -/
def TableWritten (table : NameTable String) (text : List Char) : Prop :=
  ∃ entries : List (String × String), entries.Perm table.entries ∧
    text = writtenObject (entries.map fun entry => (entry.1, writtenText entry.2))

theorem TableWritten.spelled {table : NameTable String} {text : List Char}
    (written : TableWritten table text) : Spelled.form table text := by
  obtain ⟨entries, perm, rfl⟩ := written
  exact ⟨entries, NameTable.ofEntries_perm perm, writtenObject_tabled writtenText_quoted _⟩

theorem tableWritten_write (table : NameTable String) :
    TableWritten table (Documented.write table) := ⟨table.entries, .refl _, rfl⟩

instance : Written (NameTable String) := ⟨fun table => (tableWritten_write table).spelled⟩

theorem writtenBytes_spelled (bytes : List UInt8) : Spelled.form bytes (writtenBytes bytes) := by
  have byte : ∀ value : UInt8, Spelled.form value (writtenNat value.toNat) := fun _ => rfl
  exact writtenList_listed byte bytes

instance : Written Duration where
  spelled span := by
    have nanos : writtenNat span.nanos.val = writtenNat (UInt32.ofNat span.nanos.val).toNat :=
      congrArg writtenNat span.nanos_toNat.symm
    exact writtenObject_recorded (.cons ⟨rfl, rfl⟩ (.cons ⟨rfl, nanos⟩ .nil))

end Document
open Document

instance : Written Settings := ⟨fun settings =>
  writtenObject_recorded (.cons ⟨rfl, Written.spelled settings.grace⟩
    (.cons ⟨rfl, Written.spelled settings.reloadEvery⟩
      (.cons ⟨rfl, Written.spelled settings.reclaimEvery⟩ .nil)))⟩

/-- A node as it is written, if its settings for producers come in some order. -/
def Node.WrittenAs (node : Node) (text : List Char) : Prop :=
  ∃ settings, TableWritten node.producerSettings settings ∧ text = writtenObject [
    ("node_id", writtenText node.id), ("producer_settings", settings)]

theorem Node.WrittenAs.spelled {node : Node} {text : List Char} (written : node.WrittenAs text) :
    Spelled.form node text := by
  obtain ⟨settings, table, rfl⟩ := written
  exact writtenObject_recorded (.cons ⟨rfl, Written.spelled node.id⟩
    (.cons ⟨rfl, table.spelled⟩ .nil))

theorem Node.writtenAs_write (node : Node) : node.WrittenAs (Documented.write node) :=
  ⟨_, tableWritten_write _, rfl⟩

/-- A cluster as it is written, if its parameters come in some order. -/
def Cluster.WrittenAs (cluster : Cluster) (text : List Char) : Prop :=
  ∃ params, TableWritten cluster.params params ∧ text = writtenObject [
    ("cluster_name", writtenText cluster.name), ("url", writtenText cluster.url), ("params", params)]

theorem Cluster.WrittenAs.spelled {cluster : Cluster} {text : List Char}
    (written : cluster.WrittenAs text) : Spelled.form cluster text := by
  obtain ⟨params, table, rfl⟩ := written
  exact writtenObject_recorded (.cons ⟨rfl, Written.spelled cluster.name⟩
    (.cons ⟨rfl, Written.spelled cluster.url⟩ (.cons ⟨rfl, table.spelled⟩ .nil)))

theorem Cluster.writtenAs_write (cluster : Cluster) : cluster.WrittenAs (Documented.write cluster) :=
  ⟨_, tableWritten_write _, rfl⟩

/-- An inventory as it is written, if the parameters of each cluster come in some order. -/
def Inventory.WrittenAs (inventory : Inventory) (text : List Char) : Prop :=
  ∃ clusters, List.Forall₂ Cluster.WrittenAs inventory.clusters clusters ∧ text = writtenObject [
    ("clusters", writtenList clusters), ("topics", Documented.write inventory.topics)]

theorem Inventory.WrittenAs.spelled {inventory : Inventory} {text : List Char}
    (written : inventory.WrittenAs text) : Spelled.form inventory text := by
  obtain ⟨parts, clusters, rfl⟩ := written
  have listed : Spelled.form inventory.clusters (writtenList parts) :=
    ⟨parts, clusters.imp fun _ _ cluster => .tight cluster.spelled, enclosed_tight ..⟩
  exact writtenObject_recorded (.cons ⟨rfl, listed⟩
    (.cons ⟨rfl, Written.spelled inventory.topics⟩ .nil))

theorem Inventory.writtenAs_write (inventory : Inventory) :
    inventory.WrittenAs (Documented.write inventory) := by
  refine ⟨_, ?_, rfl⟩
  exact List.forall₂_map_right_iff.mpr
    (List.forall₂_same.mpr fun cluster _ => cluster.writtenAs_write)

instance : Written Batch := ⟨fun batch =>
  writtenObject_recorded (.cons ⟨rfl, Written.spelled batch.group⟩
    (.cons ⟨rfl, Written.spelled batch.stream⟩
      (.cons ⟨rfl, Written.spelled batch.topic⟩
        (.cons ⟨rfl, writtenBytes_spelled batch.payload⟩
          (.cons ⟨rfl, Written.spelled batch.messages⟩
            (.cons ⟨rfl, Written.spelled batch.dispatchedAt⟩ .nil))))))⟩

instance : Written Tally := ⟨fun tally =>
  writtenObject_recorded (List.forall₂_map_left_iff.mpr (List.forall₂_map_right_iff.mpr
    (List.forall₂_same.mpr fun event _ => ⟨rfl, Written.spelled (tally.get event)⟩)))⟩

end ClusterPool
