import ClusterPool.Proofs.Document.Truncation
import ClusterPool.Proofs.Zone.Withholding

/-! What a pool does with a document that is only written in part. Whatever the part, nothing can be
fetched from it: either it ends too early, or the last of its bytes are no character. So a pool that
reloads while its file is being written goes on with what it has. -/
namespace ClusterPool
open Document

/-- What is wrong with the first bytes of a document. -/
inductive Torn (whole : String) (size : Nat) : Fault → Prop
  /-- They are the characters of a document that ends too early. -/
  | between {front more : String} {mistake : Mistake} : front ++ more = whole →
      front.utf8ByteSize = size → decode Inventory front = .error mistake →
      mistake.category = .early → Torn whole size (.document mistake)
  /-- They end within a character. -/
  | within : (∀ front more : String, front ++ more = whole → front.utf8ByteSize ≠ size) →
      Torn whole size (.catalogUnavailable
        ("failed to read " ++ Catalog.path ++ ": stream did not contain valid UTF-8"))

namespace Catalog

/-- A file that holds the first bytes of a text holds the characters that these are the bytes of. -/
theorem text_front (front more : String) :
    text (.content ((front ++ more).toUTF8.extract 0 front.utf8ByteSize)) = .ok front := by
  have bytes : (front ++ more).toUTF8.extract 0 front.utf8ByteSize = front.toByteArray := by
    rw [String.toUTF8_eq_toByteArray, String.toByteArray_append]
    exact ByteArray.extract_append_eq_left rfl
  have reads : String.fromUTF8? front.toByteArray = some front := dif_pos front.isValidUTF8
  rw [bytes, text, reads]

/-- A file that holds the first bytes of a text, where these end within a character, holds no text. -/
theorem text_torn {whole : String} {size : Nat} (short : size < whole.utf8ByteSize)
    (torn : ∀ front more : String, front ++ more = whole → front.utf8ByteSize ≠ size) :
    text (.content (whole.toUTF8.extract 0 size)) =
      text.unreadable "stream did not contain valid UTF-8" := by
  have invalid : ¬(whole.toUTF8.extract 0 size).IsValidUTF8 := by
    intro valid
    have position : String.Pos.Raw.IsValid whole ⟨size⟩ :=
      String.Pos.Raw.isValid_iff_isValidUTF8_extract_zero.mpr ⟨Nat.le_of_lt short, valid⟩
    obtain ⟨front, more, same, ends⟩ := String.Pos.Raw.isValid_iff_exists_append.mp position
    exact torn front more same.symm (congrArg String.Pos.Raw.byteIdx ends).symm
  have reads : String.fromUTF8? (whole.toUTF8.extract 0 size) = none := dif_neg invalid
  rw [text, reads]

/-- Nothing is fetched from a document that is only written in part. -/
theorem fetch_torn {catalog : Catalog} {inventory : Inventory} {whole : String} {size : Nat}
    (written : inventory.WrittenAs whole.toList) (short : size < whole.utf8ByteSize)
    (holds : catalog.kind = .file (.content (whole.toUTF8.extract 0 size))) :
    ∃ fault, Torn whole size fault ∧ catalog.fetch = .error fault := by
  by_cases characters : ∃ front more : String, front ++ more = whole ∧ front.utf8ByteSize = size
  · obtain ⟨front, more, rfl, rfl⟩ := characters
    have missing : more ≠ "" := by
      rintro rfl
      simp at short
    obtain ⟨mistake, fails, category⟩ := written.patient.decode rfl missing
    refine ⟨_, .between rfl rfl fails category, ?_⟩
    rw [fetch, holds]
    simp only [text_front, fails, bind, Except.bind]
  · have torn : ∀ front more : String, front ++ more = whole → front.utf8ByteSize ≠ size :=
      fun front more halves same => characters ⟨front, more, halves, same⟩
    refine ⟨_, .within torn, ?_⟩
    rw [fetch, holds]
    simp only [text_torn short torn, bind, Except.bind]
    rfl

end Catalog

namespace Course

/-- A document of which only a part is there is never acted on, whatever it was to announce: wherever it
was cut between characters it ends too early, and wherever else it was cut it is no text. Wherever a
course has led, a reload that finds such a part answers nothing, and leaves the clusters, their routes and
the topics as they were. -/
theorem torn_file_refused {inventory : Inventory} {whole : String}
    (written : inventory.WrittenAs whole.toList) :
    (∀ front more : String, front ++ more = whole → more ≠ "" →
      ∃ mistake, decode Inventory front = .error mistake ∧ mistake.category = .early) ∧
    ∀ size, size < whole.utf8ByteSize → ∀ legs zone, Course legs zone →
      zone.catalog.kind = .file (.content (whole.toUTF8.extract 0 size)) →
        ∃ fault after, Torn whole size fault ∧ zone.catalog.fetch = .error fault ∧
          Zone.reload.runAlone Zone.passUntil zone = (some none, after) ∧
          after.active = zone.active ∧ after.retiring = zone.retiring ∧
          after.rotation = zone.rotation ∧ after.topics = zone.topics := by
  refine ⟨fun front more halves missing => written.patient.decode halves missing, ?_⟩
  intro size short legs zone course holds
  obtain ⟨fault, torn, failed⟩ := Catalog.fetch_torn written short holds
  obtain ⟨_, _, ran, rfl, rfl⟩ := Zone.reload_withheld course.sound.idle.reload failed
  exact ⟨fault, _, torn, failed, ran, rfl, rfl, rfl, rfl⟩

/-- A cluster with a letter of two bytes in its name, and two characters that are escaped. -/
def accented : Inventory where
  clusters := [{ name := "é", url := "\"", params := .ofEntries [("k", "\n")] }]
  topics := .ofList ["t"]

/-- While its file is being written, a zone finds the first bytes of this document. -/
def interrupted (size : Nat) : Zone :=
  { absence.2 with catalog := {
      kind := .file (.content ((encode accented).toUTF8.extract 0 size))
      ready := true } }

/-- Before the letter the document ends too early, and within it the bytes are no text. -/
theorem torn_file_refused_of_absence :
    (∃ mistake, decode Inventory "\x7b\"clusters\":[\x7b\"cluster_name\":\"" = .error mistake ∧
      mistake.category = .early) ∧
    (interrupted 31).catalog.fetch = .error (.catalogUnavailable
      "failed to read <file>: stream did not contain valid UTF-8") ∧
    ∃ after, Zone.reload.runAlone Zone.passUntil (interrupted 31) = (some none, after) ∧
      after.rotation.names = ["A", "B"] ∧ after.topics.names = ["t", "u"] := by
  have written : accented.WrittenAs (encode accented).toList := by
    rw [encode, String.toList_ofList]
    exact accented.writtenAs_write
  obtain ⟨early, held⟩ := torn_file_refused written
  refine ⟨?_, by decide +kernel, ?_⟩
  · exact early _ "é\",\"url\":\"\\\"\",\"params\":\x7b\"k\":\"\\n\"\x7d\x7d],\"topics\":[\"t\"]\x7d"
      (by decide +kernel) (by decide)
  · have course : Course absence.1 (interrupted 31) :=
      absence_course.outside (.of_producers ⟨_, _, _, rfl⟩ rfl rfl)
    obtain ⟨_, after, _, _, ran, _, _, routes, topics⟩ :=
      held 31 (by decide +kernel) _ _ course rfl
    refine ⟨after, ran, ?_, ?_⟩
    · rw [routes]
      decide
    · rw [topics]
      decide

end Course
end ClusterPool
