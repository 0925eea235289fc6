/-! Tables keyed by names, and sets of names. Both hold their names in increasing order, each
once, so that two tables with the same entries are equal. -/
namespace ClusterPool

/-- The names of the entries strictly increase. -/
abbrev NamesIncrease (entries : List (String × α)) : Prop :=
  entries.Pairwise fun first second => first.1 < second.1

/-- Values under names, in increasing order of the names. -/
structure NameTable (α : Type) where
  entries : List (String × α)
  increasing : NamesIncrease entries

namespace NameTable

instance [DecidableEq α] : DecidableEq (NameTable α) := fun left right =>
  decidable_of_iff (left.entries = right.entries)
    ⟨fun same => by cases left; cases right; cases same; rfl, fun same => by rw [same]⟩

def empty : NameTable α := ⟨[], .nil⟩

instance : Inhabited (NameTable α) := ⟨empty⟩

def isEmpty (table : NameTable α) : Bool := table.entries.isEmpty

def size (table : NameTable α) : Nat := table.entries.length

def names (table : NameTable α) : List String := table.entries.map (·.1)

def find? (table : NameTable α) (name : String) : Option α := table.entries.lookup name

def contains (table : NameTable α) (name : String) : Bool := (table.find? name).isSome

/-- Puts an entry at its place, over one of the same name. -/
def insertEntry (name : String) (value : α) : List (String × α) → List (String × α)
  | [] => [(name, value)]
  | entry :: rest =>
    if name < entry.1 then (name, value) :: entry :: rest
    else if entry.1 < name then entry :: insertEntry name value rest
    else (name, value) :: rest

theorem mem_insertEntry {name : String} {value : α} {entries : List (String × α)}
    {entry : String × α} (member : entry ∈ insertEntry name value entries) :
    entry = (name, value) ∨ entry ∈ entries := by
  induction entries with
  | nil => simpa [insertEntry] using member
  | cons head rest ih =>
    unfold insertEntry at member
    split at member
    · simpa using member
    · split at member
      · rcases List.mem_cons.mp member with same | inside
        · exact .inr (same ▸ List.mem_cons_self)
        · rcases ih inside with same | inside
          · exact .inl same
          · exact .inr (List.mem_cons_of_mem _ inside)
      · rcases List.mem_cons.mp member with same | inside
        · exact .inl same
        · exact .inr (List.mem_cons_of_mem _ inside)

/-- Inserting keeps the names increasing. -/
theorem insertEntry_increasing (name : String) (value : α) {entries : List (String × α)}
    (increasing : NamesIncrease entries) : NamesIncrease (insertEntry name value entries) := by
  induction entries with
  | nil => simp [insertEntry]
  | cons head rest ih =>
    obtain ⟨below, restIncreasing⟩ := List.pairwise_cons.mp increasing
    unfold insertEntry
    split
    · rename_i before
      refine List.pairwise_cons.mpr ⟨fun entry member => ?_, increasing⟩
      rcases List.mem_cons.mp member with same | inside
      · exact same ▸ before
      · exact String.lt_trans before (below entry inside)
    · split
      · rename_i after
        refine List.pairwise_cons.mpr ⟨fun entry member => ?_, ih restIncreasing⟩
        rcases mem_insertEntry member with same | inside
        · exact same ▸ after
        · exact below entry inside
      · rename_i notBefore notAfter
        have same : name = head.1 :=
          String.le_antisymm (String.not_lt.mp notAfter) (String.not_lt.mp notBefore)
        exact List.pairwise_cons.mpr
          ⟨fun entry member => same ▸ below entry member, restIncreasing⟩

/-- The table in which `name` stands for `value` and every other name for what it did. -/
def insert (table : NameTable α) (name : String) (value : α) : NameTable α :=
  ⟨insertEntry name value table.entries, insertEntry_increasing name value table.increasing⟩

/-- The entries that pass the test. -/
def filter (keep : String → α → Bool) (table : NameTable α) : NameTable α :=
  ⟨table.entries.filter fun entry => keep entry.1 entry.2, table.increasing.filter _⟩

def erase (table : NameTable α) (name : String) : NameTable α :=
  table.filter fun other _ => other != name

/-- Of entries under one name, the last counts. -/
def ofEntries (entries : List (String × α)) : NameTable α :=
  entries.foldl (fun table entry => table.insert entry.1 entry.2) empty

end NameTable

/-- A set of names in increasing order. -/
abbrev NameSet := NameTable Unit

namespace NameSet

def add (set : NameSet) (name : String) : NameSet := NameTable.insert set name ()

def ofList (names : List String) : NameSet := names.foldl add NameTable.empty

def union (left right : NameSet) : NameSet := right.names.foldl add left

end NameSet
end ClusterPool
