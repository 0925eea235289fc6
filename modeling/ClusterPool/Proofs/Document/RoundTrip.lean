import ClusterPool.Producer.Phase
import ClusterPool.Proofs.Document.Legibility

/-! What is written is read back. Whatever may be written for a value is one of its spellings, and every
spelling is read as the value, so that nothing is left to prove about texts, numbers, lists and tables
at the limits of their types. -/
namespace ClusterPool.Document

/-- The only text that is written for a value. -/
def WrittenAlike [Documented α] (value : α) (text : List Char) : Prop := text = Documented.write value

/-- Whatever is written for a value is read as that value. Hence a document that was read can be
replaced by anything that is written for what it holds. -/
structure RoundTrips (α : Type) [Documented α] (written : α → List Char → Prop) : Prop where
  writes : ∀ value : α, written value (encode value).toList
  back : ∀ (value : α) (text : String), written value text.toList → decode α text = .ok value
  again : ∀ (value : α) (text other : String), decode α text = .ok value →
    written value other.toList → decode α other = decode α text

section
variable [Documented α] {written : α → List Char → Prop}

theorem RoundTrips.of_takes (writes : ∀ value, written value (Documented.write value))
    (takes : ∀ value text, written value text → Takes Documented.read value text) :
    RoundTrips α written := by
  have back : ∀ (value : α) (text : String), written value text.toList → decode α text = .ok value :=
    fun value text same => decode_of_takes (.tight (takes value _ same))
  refine ⟨fun value => ?_, back, fun value text other reads same => ?_⟩
  · rw [encode, String.toList_ofList]
    exact writes value
  · rw [reads, back value other same]

/-- A table may be written in any order, and yet is read as the one that it is. -/
theorem RoundTrips.of_spelled [Spelled α] [Legible α]
    (writes : ∀ value, written value (Documented.write value))
    (spelled : ∀ {value text}, written value text → Spelled.form value text) :
    RoundTrips α written := .of_takes writes fun value _ same => Legible.takes value _ (spelled same)

theorem RoundTrips.of_written [Spelled α] [Legible α] [Written α] : RoundTrips α WrittenAlike :=
  .of_spelled (fun _ => rfl) fun same => same ▸ Written.spelled _

end

/-- Different phases have different names. -/
theorem named_name (phase : Phase) : Phase.named phase.name = .ok phase := by
  cases phase <;> rfl

/-- A phase is read from its name. -/
theorem phase_takes (phase : Phase) : Takes Phase.read phase (Documented.write phase) := by
  obtain ⟨solid, reads⟩ := text_takes (writtenText_quoted phase.name)
  refine ⟨solid, fun gaps rest gap ends => ?_⟩
  refine (Reader.bind_eq (Reader.peek_eq '"' _ gap rfl)).trans ?_
  refine (Reader.bind_eq (reads [] rest .nil ends)).trans ?_
  rw [named_name]
  rfl

/-- Every value of every document comes back from what is written for it, whatever its texts, numbers,
lists and tables are, and in whatever order the entries of its tables are written. -/
theorem round_trips : RoundTrips Settings WrittenAlike ∧ RoundTrips Cluster Cluster.WrittenAs ∧
    RoundTrips Node Node.WrittenAs ∧ RoundTrips Batch WrittenAlike ∧ RoundTrips Tally WrittenAlike ∧
    RoundTrips Inventory Inventory.WrittenAs ∧ RoundTrips Phase WrittenAlike :=
  ⟨.of_written, .of_spelled Cluster.writtenAs_write Cluster.WrittenAs.spelled,
    .of_spelled Node.writtenAs_write Node.WrittenAs.spelled, .of_written, .of_written,
    .of_spelled Inventory.writtenAs_write Inventory.WrittenAs.spelled,
    .of_takes (fun _ => rfl) fun phase _ same => same ▸ phase_takes phase⟩

/-- A node whose settings for producers are not written in the order of their names. -/
example : Node.WrittenAs { id := "n", producerSettings := .ofEntries [("a", "1"), ("b", "2")] }
    "\x7b\"node_id\":\"n\",\"producer_settings\":\x7b\"b\":\"2\",\"a\":\"1\"\x7d\x7d".toList :=
  ⟨_, ⟨[("b", "2"), ("a", "1")], by decide, rfl⟩, by decide⟩

end ClusterPool.Document
