import ClusterPool.Proofs.Document.Reading

/-! Readers that repeat. What stands before each part of a list or an object is a comma, except before
the first; a reader that has taken some parts goes on with the parts ahead, and stops before the
closing bracket. -/
namespace ClusterPool.Document

/-- The parts that are still to be read: each with a comma before it, but the first of all. -/
def ahead (first : Bool) : List (List Char) → List Char
  | [] => []
  | part :: parts => (if first then [] else [',']) ++ (part ++ ahead false parts)

theorem intercalate_eq_ahead (parts : List (List Char)) :
    [','].intercalate parts = ahead true parts := by
  induction parts with
  | nil => rfl
  | cons part parts ih =>
    cases parts with
    | nil => simp [ahead]
    | cons next others =>
      rw [List.intercalate_cons_cons, ih]
      simp [ahead]

/-- Whatever is ahead, the end of a value comes before it. -/
theorem ends_ahead {parts : List (List Char)} {rest : List Char} (ends : Ends rest) :
    Ends (ahead false parts ++ rest) := by
  cases parts with
  | nil => exact ends
  | cons part others => exact .cons _ (by decide)

theorem length_ahead_cons (first : Bool) (part : List Char) (parts : List (List Char)) :
    part.length + (ahead false parts).length ≤ (ahead first (part :: parts)).length := by
  simp only [ahead, List.length_append]
  omega

/-- No part is empty, and so there are no more parts than characters. -/
theorem length_le_ahead {relation : α → List Char → Prop} {values : List α}
    {parts : List (List Char)} (first : Bool) (present : ∀ value part, relation value part → 0 < part.length)
    (related : List.Forall₂ relation values parts) :
    parts.length ≤ (ahead first parts).length := by
  induction related generalizing first with
  | nil => exact Nat.zero_le _
  | @cons value part _ parts head _ ih =>
    have some := present value part head
    have shorter := ih false
    have longer := length_ahead_cons first part parts
    rw [List.length_cons]
    omega

theorem Keyed.present {name : String} {form : List Char → Prop} {part : List Char}
    (keyed : Keyed name form part) : 0 < part.length := by
  obtain ⟨first, key, second, value, _, _, _, _, rfl⟩ := keyed
  simp only [List.length_append, List.length_cons]
  omega

namespace Reader

/-- Another element follows if something does that does not close the list. -/
theorem anotherElement_more {first : Bool} {gaps inner rest : List Char} {c : Char}
    (gap : Gaps gaps) (within : Gaps inner) (solid : isGap c = false) (notEnd : c ≠ ']') :
    anotherElement first (gaps ++ ((if first then [] else [',']) ++ (inner ++ c :: rest))) =
      .ok (true, c :: rest) := by
  cases first with
  | true =>
    have seen := peek_eq c rest (gap.append within) solid
    rw [List.append_assoc] at seen
    refine (bind_eq seen).trans ?_
    simp only [↓reduceIte]
    rfl
  | false =>
    have comma := peek_eq ',' (inner ++ c :: rest) gap rfl
    refine (bind_eq comma).trans ?_
    refine (bind_eq (advance_eq _ _)).trans ?_
    refine (bind_eq (peek_eq c rest within solid)).trans ?_
    simp only
    rfl

theorem anotherElement_none {first : Bool} {gaps : List Char} (gap : Gaps gaps) (rest : List Char) :
    anotherElement first (gaps ++ ']' :: rest) = .ok (false, ']' :: rest) :=
  bind_eq (peek_eq ']' rest gap rfl)

/-- Another key follows if a text does. -/
theorem anotherKey_more {first : Bool} {gaps inner rest : List Char} (gap : Gaps gaps)
    (within : Gaps inner) :
    anotherKey first (gaps ++ ((if first then [] else [',']) ++ (inner ++ '"' :: rest))) =
      .ok (true, '"' :: rest) := by
  cases first with
  | true =>
    have seen := peek_eq '"' rest (gap.append within) rfl
    rw [List.append_assoc] at seen
    exact bind_eq seen
  | false =>
    refine (bind_eq (peek_eq ',' (inner ++ '"' :: rest) gap rfl)).trans ?_
    refine (bind_eq (advance_eq _ _)).trans ?_
    exact bind_eq (peek_eq '"' rest within rfl)

theorem anotherKey_none {first : Bool} {gaps : List Char} (gap : Gaps gaps) (rest : List Char) :
    anotherKey first (gaps ++ '\x7d' :: rest) = .ok (false, '\x7d' :: rest) :=
  bind_eq (peek_eq '\x7d' rest gap rfl)

theorem closeList_eq {gaps : List Char} (gap : Gaps gaps) (rest : List Char) :
    closeList (gaps ++ ']' :: rest) = .ok ((), rest) :=
  bind_eq (peek_eq ']' rest gap rfl)

theorem closeObject_eq {gaps : List Char} (gap : Gaps gaps) (rest : List Char) :
    closeObject (gaps ++ '\x7d' :: rest) = .ok ((), rest) :=
  bind_eq (peek_eq '\x7d' rest gap rfl)

theorem get_eq (text : List Char) : (get : Reader (List Char)) text = .ok (text, text) := rfl

theorem key_eq {name : String} {spelled : List Char} (quoted : Quoted name spelled) : ∃ inner,
    spelled = '"' :: inner ∧ ∀ rest, key ('"' :: (inner ++ rest)) = .ok (name, rest) := by
  obtain ⟨pieces, characters, rfl⟩ := quoted
  refine ⟨_, rfl, fun rest => ?_⟩
  rw [List.append_assoc, List.singleton_append]
  refine (bind_eq (advance_eq _ _)).trans ((bind_eq (quoted_eq characters rest)).trans ?_)
  rw [stringOfCodes_toList]
  rfl

end Reader

/-- One element more: it is seen, taken, and what is ahead after it is left. -/
theorem element_step {item : Reader α} {value : α} {part gaps rest : List Char}
    {parts : List (List Char)} (takes : Padded (Takes item value) part) (first : Bool)
    (gap : Gaps gaps) (ends : Ends rest) : ∃ text after, Gaps after ∧
      Reader.anotherElement first (gaps ++ (ahead first (part :: parts) ++ rest)) =
        .ok (true, text) ∧
      item text = .ok (value, after ++ (ahead false parts ++ rest)) := by
  obtain ⟨before, core, after, early, ⟨⟨c, others, rfl, solid, notEnd⟩, reads⟩, late, rfl⟩ := takes
  have shape : ahead first ((before ++ (c :: others ++ after)) :: parts) ++ rest =
      (if first then [] else [',']) ++
        (before ++ c :: (others ++ (after ++ (ahead false parts ++ rest)))) := by
    simp [ahead]
  rw [shape]
  exact ⟨_, after, late, Reader.anotherElement_more gap early solid notEnd,
    reads [] _ .nil ((ends_ahead ends).gaps late)⟩

/-- One entry more: its key is seen and taken, then the colon and the value, and what is ahead after
it is left. -/
theorem member_step {name : String} {form : List Char → Prop} {reader : Reader α} {value : α}
    {part gaps rest : List Char} {parts : List (List Char)} (keyed : Keyed name form part)
    (takes : ∀ core, form core → core.length ≤ part.length → Takes reader value core) (first : Bool)
    (gap : Gaps gaps) (ends : Ends rest) : ∃ keyText colonText valueText after, Gaps after ∧
      Reader.anotherKey first (gaps ++ (ahead first (part :: parts) ++ rest)) =
        .ok (true, keyText) ∧
      Reader.key keyText = .ok (name, colonText) ∧
      Reader.colon colonText = .ok ((), valueText) ∧
      reader valueText = .ok (value, after ++ (ahead false parts ++ rest)) := by
  obtain ⟨outer, key, behind, _, within, quoted, between, ⟨before, core, after, early, spelled, late,
    rfl⟩, rfl⟩ := keyed
  obtain ⟨inner, rfl, named⟩ := Reader.key_eq quoted
  have shape : ahead first ((outer ++ ('"' :: inner ++ (behind ++ ':' ::
      (before ++ (core ++ after))))) :: parts) ++ rest =
      (if first then [] else [',']) ++ (outer ++ '"' :: (inner ++ (behind ++ ':' ::
        (before ++ (core ++ (after ++ (ahead false parts ++ rest))))))) := by
    simp [ahead]
  have fits : core.length ≤ (outer ++ ('"' :: inner ++ (behind ++ ':' ::
      (before ++ (core ++ after))))).length := by
    simp only [List.length_append, List.length_cons]
    omega
  rw [shape]
  refine ⟨_, _, before ++ (core ++ (after ++ (ahead false parts ++ rest))), after, late,
    Reader.anotherKey_more gap within, named _, ?_, ?_⟩
  · exact (Reader.bind_eq (Reader.peek_eq ':' _ between rfl)).trans (Reader.advance_eq _ _)
  · exact (takes core spelled fits).reads before _ early ((ends_ahead ends).gaps late)

/-! Lists and tables. -/

private theorem elementsFrom_eq {item : Reader α} {values : List α} {parts : List (List Char)}
    (takes : List.Forall₂ (fun value => Padded (Takes item value)) values parts) {turns : Nat}
    (enough : parts.length < turns) (first : Bool) (read : List α) {gaps : List Char}
    (gap : Gaps gaps) (rest : List Char) :
    Reader.elementsFrom item turns first read (gaps ++ (ahead first parts ++ ']' :: rest)) =
      .ok (read.reverse ++ values, ']' :: rest) := by
  induction takes generalizing first read gaps turns with
  | nil =>
    obtain ⟨turns, rfl⟩ := Nat.exists_eq_add_of_lt enough
    refine (Reader.bind_eq (Reader.anotherElement_none gap rest)).trans ?_
    rw [List.append_nil]
    rfl
  | @cons value part values parts head _ ih =>
    obtain ⟨turns, rfl⟩ : ∃ more, turns = more + 1 := ⟨turns - 1, by omega⟩
    have ends : Ends (']' :: rest) := .cons rest (by decide)
    obtain ⟨text, after, late, seen, taken⟩ := element_step head first gap ends
    have fewer : parts.length < turns := by
      rw [List.length_cons] at enough
      omega
    refine (Reader.bind_eq seen).trans ((Reader.bind_eq taken).trans ?_)
    rw [ih fewer false (value :: read) late, List.reverse_cons, List.append_assoc]
    rfl

/-- The elements behind an opening bracket. There are fewer of them than characters. -/
theorem elements_eq {item : Reader α} {values : List α} {parts : List (List Char)}
    (takes : List.Forall₂ (fun value => Padded (Takes item value)) values parts)
    {gaps : List Char} (gap : Gaps gaps) (rest : List Char) :
    Reader.elements item (gaps ++ ([','].intercalate parts ++ ']' :: rest)) =
      .ok (values, rest) := by
  have present : ∀ value part, Padded (Takes item value) part → 0 < part.length := by
    rintro value _ ⟨before, _, after, _, ⟨⟨c, others, rfl, _⟩, _⟩, _, rfl⟩
    simp only [List.length_append, List.length_cons]
    omega
  rw [intercalate_eq_ahead]
  have enough : parts.length < (gaps ++ (ahead true parts ++ ']' :: rest)).length + 1 := by
    have shorter := length_le_ahead true present takes
    simp only [List.length_append]
    omega
  refine (Reader.bind_eq (Reader.get_eq _)).trans ?_
  refine (Reader.bind_eq (elementsFrom_eq takes enough true [] gap rest)).trans ?_
  exact Reader.bind_eq (Reader.closeList_eq .nil rest)

theorem list_takes {item : Reader α} {values : List α} {text : List Char}
    (listed : Listed (Takes item) values text) : Takes (Reader.list item) values text := by
  obtain ⟨parts, takes, gaps, within, rfl⟩ := listed
  refine ⟨⟨_, _, rfl, rfl, by decide⟩, fun before rest early _ => ?_⟩
  rw [List.cons_append, List.append_assoc, List.append_assoc]
  refine (Reader.bind_eq (Reader.peek_eq '[' _ early rfl)).trans ?_
  refine (Reader.bind_eq (Reader.advance_eq _ _)).trans ?_
  exact elements_eq takes within rest

private theorem entriesFrom_eq {value : Reader α} {entries : List (String × α)}
    {parts : List (List Char)}
    (keyed : List.Forall₂ (fun entry => Keyed entry.1 (Takes value entry.2)) entries parts)
    {turns : Nat} (enough : parts.length < turns) (first : Bool) (read : NameTable α)
    {gaps : List Char} (gap : Gaps gaps) (rest : List Char) :
    Reader.entriesFrom value turns first read (gaps ++ (ahead first parts ++ '\x7d' :: rest)) =
      .ok (entries.foldl (fun table entry => table.insert entry.1 entry.2) read,
        '\x7d' :: rest) := by
  induction keyed generalizing first read gaps turns with
  | nil =>
    obtain ⟨turns, rfl⟩ := Nat.exists_eq_add_of_lt enough
    exact Reader.bind_eq (Reader.anotherKey_none gap rest)
  | @cons entry part entries parts head _ ih =>
    obtain ⟨turns, rfl⟩ : ∃ more, turns = more + 1 := ⟨turns - 1, by omega⟩
    have ends : Ends ('\x7d' :: rest) := .cons rest (by decide)
    obtain ⟨keyText, colonText, valueText, after, late, seen, named, colon, taken⟩ :=
      member_step head (fun core takes _ => takes) first gap ends
    have fewer : parts.length < turns := by
      rw [List.length_cons] at enough
      omega
    refine (Reader.bind_eq seen).trans ((Reader.bind_eq named).trans ?_)
    refine (Reader.bind_eq colon).trans ((Reader.bind_eq taken).trans ?_)
    exact ih fewer false (read.insert entry.1 entry.2) late

theorem table_takes {value : Reader α} {entries : List (String × α)} {text : List Char}
    (tabled : Tabled (Takes value) entries text) :
    Takes (Reader.table value) (NameTable.ofEntries entries) text := by
  obtain ⟨parts, keyed, gaps, within, rfl⟩ := tabled
  refine ⟨⟨_, _, rfl, rfl, by decide⟩, fun before rest early _ => ?_⟩
  rw [List.cons_append, List.append_assoc, List.append_assoc, intercalate_eq_ahead,
    List.singleton_append]
  have enough : parts.length < (gaps ++ (ahead true parts ++ '\x7d' :: rest)).length + 1 := by
    have shorter := length_le_ahead true (fun _ _ keyed => keyed.present) keyed
    simp only [List.length_append]
    omega
  refine (Reader.bind_eq (Reader.peek_eq '\x7b' _ early rfl)).trans ?_
  refine (Reader.bind_eq (Reader.advance_eq _ _)).trans ?_
  refine (Reader.bind_eq (Reader.get_eq _)).trans ?_
  refine (Reader.bind_eq (entriesFrom_eq keyed enough true .empty within rest)).trans ?_
  exact Reader.bind_eq (Reader.closeObject_eq .nil rest)

end ClusterPool.Document
