import Mathlib.Data.List.Pairwise
import Mathlib.Data.List.Perm.Basic
import ClusterPool.Proofs.Document.Collecting
import ClusterPool.Proofs.Document.Skipping

/-! What a layout reads. A record is filled one field at a time, and fields that are filled in another
order, or are left as the blank record has them, give the same record: setting one field does not
disturb another. -/
namespace ClusterPool.Document

/-- A field of a record with the spellings of the value that it should get, and what filling it with
that value does. -/
structure Place (ρ : Type) where
  field : Field ρ
  entry : Entry
  fill : ρ → ρ

/-- The reader of a field fills it whatever the spelling, and a field that may be left out is what it
should be in the blank record. -/
structure Place.Fits (blank : ρ) (place : Place ρ) : Prop where
  name : place.field.name = place.entry.name
  takes : ∀ core, place.entry.form core → Takes place.field.read place.fill core
  spare : place.entry.dispensable → place.field.required = false ∧ place.fill blank = blank

/-- It does not matter which of the two is filled first. -/
def Place.Apart (first second : Place ρ) : Prop :=
  ∀ record, first.fill (second.fill record) = second.fill (first.fill record)

instance : Std.Symm (Place.Apart (ρ := ρ)) := ⟨fun _ _ apart record => (apart record).symm⟩

/-- A field that every spelling of a record has, with the value that it should get. -/
def Place.needed [Spelled α] (name : String) (reader : Reader α) (set : α → ρ → ρ) (value : α) :
    Place ρ := ⟨.needed name reader set, .needed name value, set value⟩

/-- A field that may be left out while it is empty, with the value that it should get. -/
def Place.optional [Spelled α] (name : String) (reader : Reader α) (set : α → ρ → ρ)
    (value empty : α) : Place ρ := ⟨.optional name reader set, .optional name value empty, set value⟩

section
variable [Spelled α] {name : String} {reader : Reader α} {set : α → ρ → ρ} {value empty : α}
  {blank : ρ}

theorem Place.Fits.needed (takes : ∀ core, Spelled.form value core → Takes reader value core) :
    (Place.needed name reader set value).Fits blank :=
  ⟨rfl, fun core form => (takes core form).map set, nofun⟩

theorem Place.Fits.optional (takes : ∀ core, Spelled.form value core → Takes reader value core)
    (same : set empty blank = blank) : (Place.optional name reader set value empty).Fits blank := by
  refine ⟨rfl, fun core form => (takes core form).map set, ?_⟩
  rintro rfl
  exact ⟨rfl, same⟩

end

/-- The record in which these fields are filled. -/
def filled (places : List (Place ρ)) (record : ρ) : ρ :=
  places.foldl (fun record place => place.fill record) record

/-- The places are those of the layout, and with all of them filled it has this value. -/
structure Fills (layout : Layout ρ α) (places : List (Place ρ)) (value : α) : Prop where
  fields : layout.fields = places.map Place.field
  fits : ∀ place ∈ places, place.Fits layout.blank
  once : (layout.fields.map Field.name).Nodup
  apart : places.Pairwise Place.Apart
  finished : layout.finish (filled places layout.blank) = .ok value

section
variable {layout : Layout ρ α} {places shown hidden : List (Place ρ)} {value : α}
  {parts : List (List Char)}

/-- The places have different names. -/
theorem Fills.distinct (fills : Fills layout places value) :
    (places.map fun place => place.entry.name).Nodup := by
  have once := fills.once
  rw [fills.fields, List.map_map] at once
  have same : places.map (Field.name ∘ Place.field) = places.map fun place => place.entry.name :=
    List.map_congr_left fun place member => (fills.fits place member).name
  exact same ▸ once

/-! Records from lists. -/

/-- The elements of a list fill the first fields. Those behind them are not required. -/
private theorem readElements_eq (title : String)
    (spare : ∀ place ∈ hidden, place.field.required = false)
    (takes : List.Forall₂ (fun place => Padded (Takes place.field.read place.fill)) shown parts)
    (count : Nat) (record : ρ) {gaps : List Char} (gap : Gaps gaps) (rest : List Char) :
    ∃ after, Gaps after ∧ Layout.readElements title ((shown ++ hidden).map Place.field) count record
        (gaps ++ (ahead (count == 0) parts ++ ']' :: rest)) =
      .ok (filled shown record, after ++ ']' :: rest) := by
  induction takes generalizing count record gaps with
  | nil =>
    induction hidden generalizing gaps with
    | nil => exact ⟨gaps, gap, rfl⟩
    | cons place hidden ih =>
      obtain ⟨now, later⟩ := List.forall_mem_cons.mp spare
      obtain ⟨after, late, reads⟩ := ih later .nil
      refine ⟨after, late, (Reader.bind_eq (Reader.anotherElement_none gap rest)).trans ?_⟩
      simp only [Bool.false_eq_true, ↓reduceIte, now]
      exact reads
  | @cons place part shown parts head _ ih =>
    have ends : Ends (']' :: rest) := .cons rest (by decide)
    obtain ⟨text, behind, between, seen, taken⟩ := element_step head (count == 0) gap ends
    obtain ⟨after, late, reads⟩ := ih (count + 1) (place.fill record) between
    refine ⟨after, late, (Reader.bind_eq seen).trans ?_⟩
    exact (Reader.bind_eq taken).trans reads

/-! Records from objects. -/

private theorem find_field (named : ∀ place ∈ places, place.field.name = place.entry.name)
    (once : (places.map fun place => place.entry.name).Nodup) {place : Place ρ} (member : place ∈ places) :
    (places.map Place.field).find? (fun field => field.name == place.entry.name) =
      some place.field := by
  induction places with
  | nil => cases member
  | cons first others ih =>
    obtain ⟨now, later⟩ := List.forall_mem_cons.mp named
    obtain ⟨apart, distinct⟩ := List.nodup_cons.mp once
    rw [List.map_cons]
    rcases List.mem_cons.mp member with rfl | behind
    · exact List.find?_cons_of_pos (by simp [now])
    · have other : first.entry.name ≠ place.entry.name := fun same =>
        apart (List.mem_map.mpr ⟨place, behind, same.symm⟩)
      rw [List.find?_cons_of_neg (by simp [now, other])]
      exact ih later distinct behind

/-- The name of a place leads to its field. -/
theorem Fills.found (fills : Fills layout places value) {place : Place ρ} (member : place ∈ places) :
    layout.fields.find? (fun field => field.name == place.entry.name) = some place.field := by
  rw [fills.fields]
  exact find_field (fun place member => (fills.fits place member).name) fills.distinct member

/-- Where one of some places was seen, the others are as fresh as before. -/
theorem fresh_cons {place : Place ρ} {others : List (Place ρ)} {seen : List String}
    (apart : place.entry.name ∉ others.map fun other => other.entry.name)
    (unread : ∀ other ∈ others, other.entry.name ∉ seen) :
    ∀ other ∈ others, other.entry.name ∉ place.entry.name :: seen := by
  intro other behind
  refine List.not_mem_cons_of_ne_of_not_mem (fun same => apart ?_) (unread other behind)
  exact List.mem_map.mpr ⟨other, behind, same⟩

private theorem find_none (named : ∀ place ∈ places, place.field.name = place.entry.name) {name : String}
    (other : name ∉ places.map fun place => place.entry.name) :
    (places.map Place.field).find? (fun field => field.name == name) = none := by
  refine List.find?_eq_none.mpr fun field member => ?_
  obtain ⟨place, inside, rfl⟩ := List.mem_map.mp member
  have differs : place.entry.name ≠ name := fun same =>
    other (List.mem_map.mpr ⟨place, inside, same⟩)
  simp [named place inside, differs]

/-- The keys of an object fill the fields of these names in the order in which they come. What stands
under another name changes nothing. The length of what is ahead bounds both the keys and the values
that are passed over. -/
private theorem readKeys_eq (fills : Fills layout places value) {entries : List Entry}
    (members : Members layout.closed (places.map fun place => place.entry.name) entries parts)
    (same : shown.map Place.entry = entries) (inside : ∀ place ∈ shown, place ∈ places)
    (once : (shown.map fun place => place.entry.name).Nodup) {seen : List String}
    (fresh : ∀ place ∈ shown, place.entry.name ∉ seen) {first : Bool} {turns : Nat}
    (enough : (ahead first parts).length < turns) (record : ρ) {gaps : List Char} (gap : Gaps gaps)
    (rest : List Char) :
    layout.readKeys turns first seen record (gaps ++ (ahead first parts ++ '\x7d' :: rest)) =
      .ok (((shown.map fun place => place.entry.name).reverse ++ seen, filled shown record),
        '\x7d' :: rest) := by
  have named := fun place member => (fills.fits place member).name
  have ends : Ends ('\x7d' :: rest) := .cons rest (by decide)
  -- Induction on the parts that are ahead. Each takes one turn and has a character at least, so that
  -- the turns stay above the length of what is left.
  induction members generalizing shown seen first turns record gaps with
  | nil =>
    obtain ⟨turns, rfl⟩ := Nat.exists_eq_add_of_lt enough
    obtain rfl : shown = [] := List.map_eq_nil_iff.mp same
    exact Reader.bind_eq (Reader.anotherKey_none gap rest)
  | @known entry entries part parts keyed _ ih =>
    obtain ⟨place, others, rfl, rfl, again⟩ := List.map_eq_cons_iff.mp same
    obtain ⟨member, within⟩ := List.forall_mem_cons.mp inside
    obtain ⟨unseen, unread⟩ := List.forall_mem_cons.mp fresh
    obtain ⟨apart, distinct⟩ := List.nodup_cons.mp once
    have new : seen.contains place.entry.name = false := by simpa using unseen
    have some := keyed.present
    have longer := length_ahead_cons first part parts
    obtain ⟨turns, rfl⟩ : ∃ more, turns = more + 1 := ⟨turns - 1, by omega⟩
    have fewer : (ahead false parts).length < turns := by omega
    obtain ⟨keyText, colonText, valueText, after, late, sees, reads, colon, taken⟩ :=
      member_step keyed (fun core form _ => (fills.fits place member).takes core form) first gap ends
    refine (Reader.bind_eq sees).trans ((Reader.bind_eq reads).trans ?_)
    simp only [fills.found member, new]
    refine (Reader.bind_eq colon).trans ((Reader.bind_eq taken).trans ?_)
    rw [ih again within distinct (fresh_cons apart unread) fewer _ late, List.map_cons, List.reverse_cons,
      List.append_assoc]
    rfl
  | @unknown name entries part parts free other keyed _ ih =>
    have some := keyed.present
    have longer := length_ahead_cons first part parts
    obtain ⟨turns, rfl⟩ : ∃ more, turns = more + 1 := ⟨turns - 1, by omega⟩
    have short : part.length ≤ turns := by omega
    have fewer : (ahead false parts).length < turns := by omega
    obtain ⟨keyText, colonText, valueText, after, late, sees, reads, colon, taken⟩ :=
      member_step keyed (fun core form fits => skip_takes form (Nat.le_trans fits short))
        first gap ends
    have found := find_none named other
    rw [← fills.fields] at found
    refine (Reader.bind_eq sees).trans ((Reader.bind_eq reads).trans ?_)
    simp only [found, free]
    refine (Reader.bind_eq colon).trans ((Reader.bind_eq taken).trans ?_)
    exact ih same inside once fresh fewer record late

/-! Records in either form. -/

private theorem filled_blank {blank : ρ} (same : ∀ place ∈ hidden, place.fill blank = blank) :
    filled hidden blank = blank := by
  induction hidden with
  | nil => rfl
  | cons place others ih =>
    obtain ⟨now, later⟩ := List.forall_mem_cons.mp same
    rw [filled, List.foldl_cons, now]
    exact ih later

/-- What is hidden need not be filled, and the order of the others does not matter. -/
private theorem filled_eq (fills : Fills layout places value) (perm : (shown ++ hidden).Perm places)
    (spare : ∀ place ∈ hidden, place.entry.dispensable) :
    filled shown layout.blank = filled places layout.blank := by
  have blank : ∀ place ∈ hidden, place.fill layout.blank = layout.blank := fun place member =>
    ((fills.fits place (perm.subset (List.mem_append_right _ member))).spare (spare place member)).2
  have apart : ∀ first ∈ places, ∀ second ∈ places, first.Apart second := fun _ one _ two =>
    fills.apart.forall_of_forall (fun _ _ _ => rfl) one two
  have moved : (hidden ++ shown).Perm places := List.perm_append_comm.trans perm
  calc filled shown layout.blank
    _ = filled shown (filled hidden layout.blank) := by
      rw [filled_blank blank]
    _ = filled (hidden ++ shown) layout.blank := List.foldl_append.symm
    _ = filled places layout.blank := by
      refine moved.foldl_eq' (fun first one second two record => ?_) _
      exact apart second (moved.subset two) first (moved.subset one) record

/-- A reordering of the entries is one of the places. -/
private theorem places_of_entries {entries spare : List Entry}
    (perm : (entries ++ spare).Perm (places.map Place.entry)) : ∃ shown hidden : List (Place ρ),
      shown.map Place.entry = entries ∧ hidden.map Place.entry = spare ∧
        (shown ++ hidden).Perm places := by
  have aligned : List.Forall₂ (fun entry place => entry = Place.entry place)
      (places.map Place.entry) places :=
    List.forall₂_map_left_iff.mpr (List.forall₂_same.mpr fun _ _ => rfl)
  obtain ⟨moved, related, reordered⟩ := List.perm_comp_forall₂ perm aligned
  have same : entries ++ spare = moved.map Place.entry :=
    List.forall₂_eq_eq_eq ▸ List.forall₂_map_right_iff.mpr related
  obtain ⟨shown, hidden, rfl, rfl, rfl⟩ := List.map_eq_append_iff.mp same.symm
  exact ⟨shown, hidden, rfl, rfl, reordered⟩

/-- No required field is missing where the others may be left out. -/
theorem missing_eq (fills : Fills layout places value) (perm : (shown ++ hidden).Perm places)
    (spare : ∀ place ∈ hidden, place.entry.dispensable) :
    layout.missing? ((shown.map fun place => place.entry.name).reverse ++ []) = none := by
  rw [Layout.missing?, fills.fields, List.append_nil]
  refine Option.map_eq_none_iff.mpr (List.find?_eq_none.mpr fun field member => ?_)
  obtain ⟨place, inside, rfl⟩ := List.mem_map.mp member
  have fit := fills.fits place inside
  rcases List.mem_append.mp (perm.mem_iff.mpr inside) with seen | absent
  · have named : place.field.name ∈ shown.map fun place => place.entry.name :=
      List.mem_map.mpr ⟨place, seen, fit.name.symm⟩
    simp [named]
  · simp [(fit.spare (spare place absent)).1]

theorem asObject_takes (fills : Fills layout places value) {text : List Char}
    (recorded : AsObject layout.closed (places.map Place.entry) text) :
    Takes layout.read value text := by
  obtain ⟨entries, spare, parts, perm, allowed, members, gaps, within, rfl⟩ := recorded
  obtain ⟨shown, hidden, rfl, rfl, reordered⟩ := places_of_entries perm
  have allowed := List.forall_mem_map.mp allowed
  have inside : ∀ place ∈ shown, place ∈ places := fun place member =>
    reordered.subset (List.mem_append_left _ member)
  have once : (shown.map fun place => place.entry.name).Nodup := by
    have all := (reordered.map fun place => place.entry.name).nodup_iff.mpr fills.distinct
    rw [List.map_append] at all
    exact (List.nodup_append.mp all).1
  refine ⟨⟨_, _, rfl, rfl, by decide⟩, fun before rest early _ => ?_⟩
  rw [List.map_map] at members
  have enough : (ahead true parts).length <
      (gaps ++ (ahead true parts ++ '\x7d' :: rest)).length + 1 := by
    simp only [List.length_append]
    omega
  have fresh : ∀ place ∈ shown, place.entry.name ∉ [] := fun _ _ => List.not_mem_nil
  have reads := readKeys_eq fills members rfl inside once fresh enough layout.blank within rest
  rw [filled_eq fills reordered allowed] at reads
  rw [List.cons_append, List.append_assoc, List.append_assoc, intercalate_eq_ahead]
  refine (Reader.bind_eq (Reader.peek_eq '\x7b' _ early rfl)).trans ?_
  refine (Reader.bind_eq (Reader.advance_eq _ _)).trans ?_
  refine (Reader.bind_eq (Reader.get_eq _)).trans ((Reader.bind_eq reads).trans ?_)
  simp only [missing_eq fills reordered allowed, fills.finished]
  exact (Reader.bind_eq rfl).trans (Reader.bind_eq (Reader.closeObject_eq .nil rest))

theorem asList_takes (fills : Fills layout places value) {text : List Char}
    (recorded : AsList (places.map Place.entry) text) : Takes layout.read value text := by
  obtain ⟨entries, spare, parts, order, allowed, forms, gaps, within, rfl⟩ := recorded
  obtain ⟨shown, hidden, rfl, rfl, rfl⟩ := List.map_eq_append_iff.mp order.symm
  have allowed := List.forall_mem_map.mp allowed
  have fits := List.forall_mem_append.mp fills.fits
  have takes : List.Forall₂ (fun place => Padded (Takes place.field.read place.fill)) shown parts := by
    refine ((List.forall₂_and_left _ _).mpr ⟨fits.1, List.forall₂_map_left_iff.mp forms⟩).imp ?_
    rintro place part ⟨fit, before, core, after, early, form, late, same⟩
    exact ⟨before, core, after, early, fit.takes core form, late, same⟩
  have required : ∀ place ∈ hidden, place.field.required = false := fun place member =>
    ((fits.2 place member).spare (allowed place member)).1
  refine ⟨⟨_, _, rfl, rfl, by decide⟩, fun before rest early _ => ?_⟩
  obtain ⟨after, late, reads⟩ :=
    readElements_eq layout.lengthTitle required takes 0 layout.blank within rest
  rw [← fills.fields, filled_eq fills (.refl _) allowed] at reads
  rw [List.cons_append, List.append_assoc, List.append_assoc, intercalate_eq_ahead]
  refine (Reader.bind_eq (Reader.peek_eq '[' _ early rfl)).trans ?_
  refine (Reader.bind_eq (Reader.advance_eq _ _)).trans ((Reader.bind_eq reads).trans ?_)
  rw [fills.finished]
  exact (Reader.bind_eq rfl).trans (Reader.bind_eq (Reader.closeList_eq late rest))

theorem record_takes (fills : Fills layout places value) {text : List Char}
    (recorded : Recorded layout.closed (places.map Place.entry) text) : Takes layout.read value text :=
  recorded.elim (asObject_takes fills) (asList_takes fills)

end
end ClusterPool.Document
