import ClusterPool.Proofs.Document.Legibility

/-! What is read from the front of a document. As long as a part of a value is missing, its reader is
waiting for something: for a quote, for a comma or a bracket, for a colon, or for a value. So wherever a
document was cut off, the mistake that is reported is that it ends too early. This is so for documents
as they are written; one that was spelled otherwise may be complete without its last gaps, and where a
number is passed over, a missing digit counts as a broken number. -/
namespace ClusterPool
namespace Document

/-- The reader reports that the document ends too early. -/
def EndsEarly (reader : Reader α) (text : List Char) : Prop :=
  ∃ mistake, reader text = .error mistake ∧ mistake.category = .early

/-- Given any front of the text, the reader reports an early end, or it has seen all that it takes of
the text, and takes the same value. -/
def Waits (reader : Reader α) (value : α) (text rest : List Char) : Prop :=
  ∀ cut more, cut ++ more = text →
    EndsEarly reader cut ∨ ∃ left, left ++ more = rest ∧ reader cut = .ok (value, left)

theorem Reader.bind_error {reader : Reader α} {next : α → Reader β} {text : List Char}
    {mistake : Mistake} (fails : reader text = .error mistake) :
    (reader >>= next) text = .error mistake := by
  change (reader text >>= fun read => next read.1 read.2) = _
  rw [fails]
  rfl

namespace Waits

variable {reader : Reader α} {value : α} {answer : β} {c : Char} {text middle rest : List Char}

theorem pure (value : α) (text : List Char) : Waits (Pure.pure value) value text text :=
  fun cut _ same => .inr ⟨cut, same, rfl⟩

theorem bind {next : α → Reader β} (early : Waits reader value text middle)
    (late : Waits (next value) answer middle rest) : Waits (reader >>= next) answer text rest := by
  intro cut more same
  rcases early cut more same with ⟨mistake, fails, category⟩ | ⟨left, same, reads⟩
  · exact .inl ⟨mistake, Reader.bind_error fails, category⟩
  · rw [EndsEarly, Reader.bind_eq reads]
    exact late left more same

theorem get {next : List Char → Reader α} (waits : ∀ seen, Waits (next seen) value text rest) :
    Waits (MonadState.get >>= next) value text rest :=
  fun cut more same => waits cut cut more same

/-- A reader that waits for a character, and waits after it. -/
theorem cons (early : EndsEarly reader [])
    (waits : Waits (fun cut => reader (c :: cut)) value text rest) :
    Waits reader value (c :: text) rest := by
  intro cut more same
  cases cut with
  | nil => exact .inl early
  | cons d cut =>
    obtain ⟨rfl, behind⟩ := List.cons.inj same
    exact waits cut more behind

/-- A reader that waits for a character, takes it, and waits after it. -/
theorem take {next : Option Char → Reader α} {behind : Reader α} (early : EndsEarly (next none) [])
    (solid : isGap c = false) (goes : next (some c) = do Reader.advance; behind)
    (waits : Waits behind value text rest) : Waits (Reader.peek >>= next) value (c :: text) rest := by
  refine cons early fun cut more same => ?_
  have reads : (Reader.peek >>= next) (c :: cut) = behind cut := by
    refine (Reader.bind_eq (Reader.peek_eq c cut .nil solid)).trans ?_
    rw [goes]
    exact Reader.bind_eq (Reader.advance_eq c cut)
  simp only [EndsEarly, reads]
  exact waits cut more same

/-- A reader that waits for a character and leaves it. -/
theorem seen (early : EndsEarly reader [])
    (sees : ∀ cut, reader (c :: cut) = .ok (value, c :: cut)) (rest : List Char) :
    Waits reader value (c :: rest) (c :: rest) :=
  cons early fun cut _ same => .inr ⟨c :: cut, congrArg (c :: ·) same, sees cut⟩

end Waits

/-! Texts, character by character. -/

/-- Where a character is fine, what follows it does not matter. -/
private theorem scanChar_ok {rule : TextRule} {state : EscapeState} {c : Char} {rest : List Char}
    {step : ScanStep} (goes : scanChar rule state c rest = .ok step) (other : List Char) :
    scanChar rule state c other = .ok step := by
  cases state with
  | hex high value left =>
    cases digit : hexDigit? c with
    | none => simp [scanChar, digit] at goes
    | some number => simpa only [scanChar, digit] using goes
  | plain => exact goes
  | slash => exact goes
  | high first => exact goes
  | highSlash first => exact goes

/-- A scanner that comes to the end of a text waits for it, in the middle of an escape, too. -/
private theorem scanText_waits {rule : TextRule} {state : EscapeState} {codes read : List Nat}
    {text rest : List Char} (ends : scanText rule state codes text = .ok (read, rest)) :
    Waits (scanText rule state codes) read text rest := by
  -- Induction on the front, as the scanner goes along it.
  intro cut more same
  induction cut generalizing state codes text with
  | nil => exact .inl ⟨.endsInText, rfl, rfl⟩
  | cons c cut ih =>
    subst same
    rw [List.cons_append, scanText] at ends
    split at ends
    · cases ends
    · rename_i goes
      cases ends
      refine .inr ⟨cut, rfl, ?_⟩
      rw [scanText, scanChar_ok goes]
    · rename_i goes
      have step : scanText rule state codes (c :: cut) = _ := scanText_goOn (scanChar_ok goes cut)
      rw [EndsEarly, step]
      exact ih ends rfl

/-- The reader of a value as it is written waits for all of it, whatever follows. -/
structure Patient (reader : Reader α) (value : α) (core : List Char) : Prop where
  solid : ∃ c rest, core = c :: rest ∧ isGap c = false ∧ c ≠ ']'
  waits : ∀ rest, Waits reader value (core ++ rest) rest

theorem Patient.map {reader : Reader α} {value : α} {core : List Char}
    (patient : Patient reader value core) (change : α → β) :
    Patient (change <$> reader) (change value) core := by
  refine ⟨patient.solid, fun rest => ?_⟩
  rw [map_eq_pure_bind]
  exact (patient.waits rest).bind (.pure (change value) rest)

/-- A text behind its opening quote. -/
private theorem codes_wait {name : String} {pieces : List (List Char)}
    (spelled : List.Forall₂ CharSpelled name.toList pieces) (rest : List Char) :
    Waits (do return stringOfCodes (← Reader.quoted .strict)) name
      (pieces.flatten ++ '"' :: rest) rest := by
  have scans : Waits (Reader.quoted .strict) _ _ rest :=
    scanText_waits (Reader.quoted_eq spelled rest)
  refine scans.bind ?_
  rw [stringOfCodes_toList]
  exact .pure name rest

theorem text_patient {text : String} {core : List Char} (quoted : Quoted text core) :
    Patient Reader.text text core := by
  obtain ⟨pieces, spelled, rfl⟩ := quoted
  refine ⟨⟨_, _, rfl, rfl, by decide⟩, fun rest => ?_⟩
  rw [List.cons_append, List.append_assoc]
  exact .take ⟨.endsInValue, rfl, rfl⟩ rfl rfl (codes_wait spelled rest)

/-! Lists and objects. -/

namespace Reader

theorem anotherElement_waits {item : Reader α} {value : α} {part : List Char}
    (patient : Patient item value part) (first : Bool) (parts : List (List Char)) (rest : List Char) :
    Waits (anotherElement first) true (ahead first (part :: parts) ++ rest)
      (part ++ (ahead false parts ++ rest)) := by
  obtain ⟨c, others, rfl, solid, notEnd⟩ := patient.solid
  rw [ahead, List.append_assoc, List.append_assoc]
  cases first with
  | true =>
    refine .seen ⟨.endsInList, rfl, rfl⟩ (fun cut => ?_) _
    exact @anotherElement_more true [] [] cut c .nil .nil solid notEnd
  | false =>
    refine .cons ⟨.endsInList, rfl, rfl⟩ (.seen ⟨.endsInValue, rfl, rfl⟩ (fun cut => ?_) _)
    exact @anotherElement_more false [] [] cut c .nil .nil solid notEnd

theorem anotherElement_stops (first : Bool) (rest : List Char) :
    Waits (anotherElement first) false (']' :: rest) (']' :: rest) :=
  .seen ⟨.endsInList, rfl, rfl⟩ (fun _ => rfl) rest

theorem closeList_waits (rest : List Char) : Waits closeList () (']' :: rest) rest :=
  .cons ⟨.endsInList, rfl, rfl⟩ (.pure () rest)

theorem anotherKey_waits {name : String} {key : List Char} (quoted : Quoted name key) (first : Bool)
    (core : List Char) (parts : List (List Char)) (rest : List Char) :
    Waits (anotherKey first) true (ahead first ((key ++ core) :: parts) ++ rest)
      (key ++ (core ++ (ahead false parts ++ rest))) := by
  obtain ⟨pieces, spelled, rfl⟩ := quoted
  rw [ahead, List.append_assoc, List.append_assoc, List.append_assoc]
  cases first with
  | true => exact .seen ⟨.endsInObject, rfl, rfl⟩ (fun _ => rfl) _
  | false => exact .cons ⟨.endsInObject, rfl, rfl⟩ (.seen ⟨.endsInValue, rfl, rfl⟩ (fun _ => rfl) _)

theorem anotherKey_stops (first : Bool) (rest : List Char) :
    Waits (anotherKey first) false ('\x7d' :: rest) ('\x7d' :: rest) :=
  .seen ⟨.endsInObject, rfl, rfl⟩ (fun _ => rfl) rest

theorem key_waits {name : String} {key : List Char} (quoted : Quoted name key) (rest : List Char) :
    Waits Reader.key name (key ++ rest) rest := by
  obtain ⟨pieces, spelled, rfl⟩ := quoted
  rw [List.cons_append, List.append_assoc]
  exact .cons ⟨.endsInText, rfl, rfl⟩ (codes_wait spelled rest)

theorem colon_waits (rest : List Char) : Waits colon () (':' :: rest) rest :=
  .cons ⟨.endsInObject, rfl, rfl⟩ (.pure () rest)

theorem closeObject_waits (rest : List Char) : Waits closeObject () ('\x7d' :: rest) rest :=
  .cons ⟨.endsInObject, rfl, rfl⟩ (.pure () rest)

end Reader

private theorem elementsFrom_waits {item : Reader α} {values : List α} {parts : List (List Char)}
    (patient : List.Forall₂ (Patient item) values parts) (turns : Nat) (first : Bool) (read : List α)
    (rest : List Char) :
    Waits (Reader.elementsFrom item turns first read) (read.reverse ++ values)
      (ahead first parts ++ ']' :: rest) (']' :: rest) := by
  induction patient generalizing turns first read with
  | nil =>
    cases turns with
    | zero => exact fun _ _ _ => .inl ⟨.endsInList, rfl, rfl⟩
    | succ turns =>
      rw [List.append_nil]
      exact (Reader.anotherElement_stops first rest).bind (.pure _ _)
  | @cons value part values parts head _ ih =>
    cases turns with
    | zero => exact fun _ _ _ => .inl ⟨.endsInList, rfl, rfl⟩
    | succ turns =>
      have others := ih turns false (value :: read)
      rw [List.reverse_cons, List.append_assoc] at others
      exact (Reader.anotherElement_waits head first parts _).bind ((head.waits _).bind others)

theorem list_patient {item : Reader α} {values : List α} {parts : List (List Char)}
    (patient : List.Forall₂ (Patient item) values parts) :
    Patient (Reader.list item) values (writtenList parts) := by
  refine ⟨⟨_, _, rfl, rfl, by decide⟩, fun rest => ?_⟩
  rw [writtenList, enclosed, List.append_assoc, List.cons_append, intercalate_eq_ahead]
  have elements : Waits (Reader.elements item) values (ahead true parts ++ ']' :: rest) rest :=
    .get fun _ => (elementsFrom_waits patient _ true [] rest).bind
      ((Reader.closeList_waits rest).bind (.pure values rest))
  exact .take ⟨.endsInValue, rfl, rfl⟩ rfl rfl elements

/-- An entry of an object without gaps in it. -/
def Packed (name : String) (form : List Char → Prop) (part : List Char) : Prop :=
  ∃ key core, Quoted name key ∧ form core ∧ part = key ++ ':' :: core

private theorem entriesFrom_waits {value : Reader α} {entries : List (String × α)}
    {parts : List (List Char)}
    (packed : List.Forall₂ (fun entry => Packed entry.1 (Patient value entry.2)) entries parts)
    (turns : Nat) (first : Bool) (read : NameTable α) (rest : List Char) :
    Waits (Reader.entriesFrom value turns first read)
      (entries.foldl (fun table entry => table.insert entry.1 entry.2) read)
      (ahead first parts ++ '\x7d' :: rest) ('\x7d' :: rest) := by
  induction packed generalizing turns first read with
  | nil =>
    cases turns with
    | zero => exact fun _ _ _ => .inl ⟨.endsInObject, rfl, rfl⟩
    | succ turns => exact (Reader.anotherKey_stops first rest).bind (.pure _ _)
  | @cons entry part entries parts head _ ih =>
    cases turns with
    | zero => exact fun _ _ _ => .inl ⟨.endsInObject, rfl, rfl⟩
    | succ turns =>
      obtain ⟨key, core, quoted, patient, rfl⟩ := head
      refine (Reader.anotherKey_waits quoted first _ _ _).bind ((Reader.key_waits quoted _).bind ?_)
      refine (Reader.colon_waits _).bind ((patient.waits _).bind ?_)
      exact ih turns false (read.insert entry.1 entry.2)

theorem table_patient {value : Reader α} {entries : List (String × α)} {parts : List (List Char)}
    (packed : List.Forall₂ (fun entry => Packed entry.1 (Patient value entry.2)) entries parts) :
    Patient (Reader.table value) (NameTable.ofEntries entries) (enclosed '\x7b' '\x7d' parts) := by
  refine ⟨⟨_, _, rfl, rfl, by decide⟩, fun rest => ?_⟩
  rw [enclosed, List.append_assoc, List.cons_append, intercalate_eq_ahead]
  refine .take ⟨.endsInValue, rfl, rfl⟩ rfl rfl (.get fun _ => ?_)
  exact (entriesFrom_waits packed _ true .empty rest).bind
    ((Reader.closeObject_waits rest).bind (.pure (NameTable.ofEntries entries) rest))

/-! Records. -/

section
variable {layout : Layout ρ α} {places shown : List (Place ρ)} {value : α} {parts : List (List Char)}

/-- The keys of an object that are still ahead. -/
private theorem readKeys_waits (fills : Fills layout places value)
    (packed : List.Forall₂ (fun place => Packed place.entry.name (Patient place.field.read place.fill))
      shown parts) (inside : ∀ place ∈ shown, place ∈ places)
    (once : (shown.map fun place => place.entry.name).Nodup) {seen : List String}
    (fresh : ∀ place ∈ shown, place.entry.name ∉ seen) (turns : Nat) (first : Bool) (record : ρ)
    (rest : List Char) :
    Waits (layout.readKeys turns first seen record)
      ((shown.map fun place => place.entry.name).reverse ++ seen, filled shown record)
      (ahead first parts ++ '\x7d' :: rest) ('\x7d' :: rest) := by
  induction packed generalizing seen turns first record with
  | nil =>
    cases turns with
    | zero => exact fun _ _ _ => .inl ⟨.endsInObject, rfl, rfl⟩
    | succ turns => exact (Reader.anotherKey_stops first rest).bind (.pure _ _)
  | @cons place part others parts head _ ih =>
    cases turns with
    | zero => exact fun _ _ _ => .inl ⟨.endsInObject, rfl, rfl⟩
    | succ turns =>
      obtain ⟨key, core, quoted, patient, rfl⟩ := head
      obtain ⟨member, within⟩ := List.forall_mem_cons.mp inside
      obtain ⟨unseen, unread⟩ := List.forall_mem_cons.mp fresh
      obtain ⟨apart, distinct⟩ := List.nodup_cons.mp once
      have new : seen.contains place.entry.name = false := by simpa using unseen
      have later := ih within distinct (fresh_cons apart unread) turns false (place.fill record)
      refine (Reader.anotherKey_waits quoted first _ _ _).bind ((Reader.key_waits quoted _).bind ?_)
      simp only [fills.found member, new]
      rw [List.map_cons, List.reverse_cons, List.append_assoc]
      exact (Reader.colon_waits _).bind ((patient.waits _).bind later)

/-- A record is read patiently from an object with all its fields in their order, if each of them is
read patiently. -/
theorem record_patient (fills : Fills layout places value)
    (packed : List.Forall₂ (fun place => Packed place.entry.name (Patient place.field.read place.fill))
      places parts) : Patient layout.read value (enclosed '\x7b' '\x7d' parts) := by
  refine ⟨⟨_, _, rfl, rfl, by decide⟩, fun rest => ?_⟩
  rw [enclosed, List.append_assoc, List.cons_append, intercalate_eq_ahead]
  have reads := fun turns => readKeys_waits fills packed (fun _ => id) fills.distinct
    (fun _ _ => List.not_mem_nil) turns true layout.blank rest
  have complete := missing_eq fills (.of_eq (List.append_nil places)) (List.forall_mem_nil _)
  refine .take ⟨.endsInValue, rfl, rfl⟩ rfl rfl (.get fun _ => (reads _).bind ?_)
  simp only [complete, fills.finished]
  exact .bind (.pure value _) ((Reader.closeObject_waits rest).bind (.pure value rest))

end

/-! Documents. -/

theorem Packed.written {name : String} {form : List Char → Prop} {core : List Char} (fits : form core) :
    Packed name form (writtenText name ++ ':' :: core) := ⟨_, core, writtenText_quoted name, fits, rfl⟩

/-- A document of which something is missing ends too early. -/
theorem Patient.decode [Documented α] {value : α} {text front more : String}
    (patient : Patient Documented.read value text.toList) (halves : front ++ more = text)
    (missing : more ≠ "") :
    ∃ mistake, Document.decode α front = .error mistake ∧ mistake.category = .early := by
  have whole : front.toList ++ more.toList = text.toList ++ [] := by
    rw [List.append_nil, ← halves, String.toList_append]
  rcases patient.waits [] front.toList more.toList whole with
    ⟨mistake, fails, category⟩ | ⟨left, all, _⟩
  · refine ⟨mistake, ?_, category⟩
    rw [Document.decode, fails]
    rfl
  · have nothing := (List.append_eq_nil_iff.mp all).2
    exact absurd (String.toList_eq_nil_iff.mp nothing) missing

theorem set_patient (set : NameSet) :
    Patient (Documented.read : Reader NameSet) set (Documented.write set) := by
  have listed : Patient (Reader.list Reader.text) set.names (writtenList (set.names.map writtenText)) :=
    list_patient (List.forall₂_map_right_iff.mpr (List.forall₂_same.mpr fun name _ =>
      text_patient (writtenText_quoted name)))
  have same : NameSet.ofList set.names = set := NameSet.empty_union set
  refine ⟨listed.solid, fun rest => (listed.waits rest).bind ?_⟩
  rw [same]
  exact .pure set rest

theorem TableWritten.patient {table : NameTable String} {text : List Char}
    (written : TableWritten table text) : Patient Documented.read table text := by
  obtain ⟨entries, perm, rfl⟩ := written
  have packed : List.Forall₂ (fun entry : String × String => Packed entry.1 (Patient Reader.text entry.2))
      entries (entries.map fun entry => writtenText entry.1 ++ ':' :: writtenText entry.2) :=
    List.forall₂_map_right_iff.mpr (List.forall₂_same.mpr fun entry _ =>
      .written (text_patient (writtenText_quoted entry.2)))
  have patient := table_patient packed
  rw [NameTable.ofEntries_perm perm] at patient
  rw [writtenObject, List.map_map]
  exact patient

end Document
open Document

theorem Cluster.WrittenAs.patient {cluster : Cluster} {text : List Char}
    (written : cluster.WrittenAs text) : Patient Documented.read cluster text := by
  obtain ⟨params, table, rfl⟩ := written
  exact record_patient cluster.fills
    (.cons (.written ((text_patient (writtenText_quoted _)).map _))
      (.cons (.written ((text_patient (writtenText_quoted _)).map _))
        (.cons (.written (table.patient.map _)) .nil)))

theorem Inventory.WrittenAs.patient {inventory : Inventory} {text : List Char}
    (written : inventory.WrittenAs text) : Patient Documented.read inventory text := by
  obtain ⟨parts, clusters, rfl⟩ := written
  have listed := list_patient (clusters.imp fun _ _ => Cluster.WrittenAs.patient)
  exact record_patient inventory.fills
    (.cons (.written (listed.map _)) (.cons (.written ((set_patient _).map _)) .nil))

end ClusterPool
