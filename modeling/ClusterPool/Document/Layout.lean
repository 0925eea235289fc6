import ClusterPool.Document.Skip

/-! Records of a document. A layout lists the fields of a record in their order, and a record is
read either from an object with these keys or from a list with these elements. -/
namespace ClusterPool.Document

/-- One field of a record under construction. A field that is not required keeps the value that
the blank record gives it. -/
structure Field (ρ : Type) where
  name : String
  required : Bool
  read : Reader (ρ → ρ)

def Field.needed (name : String) (reader : Reader α) (set : α → ρ → ρ) : Field ρ :=
  ⟨name, true, set <$> reader⟩

def Field.optional (name : String) (reader : Reader α) (set : α → ρ → ρ) : Field ρ :=
  ⟨name, false, set <$> reader⟩

/-- How a record of type `α` is read. `counted` lets the number of fields appear when a list has
too few elements, `closed` refuses keys that are no fields, and `finish` makes the value. -/
structure Layout (ρ α : Type) where
  title : String
  counted : Bool := true
  closed : Bool := false
  blank : ρ
  fields : List (Field ρ)
  finish : ρ → Except Mistake α

namespace Layout

/-- The record as it is named when a list is too short for it. -/
def lengthTitle (layout : Layout ρ α) : String :=
  if layout.counted then
    layout.title ++ " with " ++ toString layout.fields.length ++ " elements"
  else layout.title

/-- The fields from the elements of a list, in their order. -/
def readElements (title : String) : List (Field ρ) → Nat → ρ → Reader ρ
  | [], _, record => return record
  | field :: fields, count, record => do
    if ← Reader.anotherElement (count == 0) then
      let set ← field.read
      readElements title fields (count + 1) (set record)
    else if field.required then throw (.wrongLength count title)
    else readElements title fields count record

/-- The fields from the keys of an object, with the names of those already read. -/
def readKeys (layout : Layout ρ α) : Nat → Bool → List String → ρ → Reader (List String × ρ)
  | 0, _, _, _ => throw .endsInObject
  | turns + 1, first, seen, record => do
    if ← Reader.anotherKey first then
      let name ← Reader.key
      match layout.fields.find? fun field => field.name == name with
      | some field =>
        if seen.contains name then throw (.duplicateField name)
        else
          Reader.colon
          let set ← field.read
          readKeys layout turns false (name :: seen) (set record)
      | none =>
        if layout.closed then throw (.unknownField name (layout.fields.map (·.name)))
        else
          Reader.colon
          Reader.skip turns
          readKeys layout turns false seen record
    else return (seen, record)

/-- The first field that is required and was not read. -/
def missing? (layout : Layout ρ α) (seen : List String) : Option String :=
  (layout.fields.find? fun field => field.required && !seen.contains field.name).map (·.name)

def read (layout : Layout ρ α) : Reader α := do
  match ← Reader.peek with
  | none => throw .endsInValue
  | some '[' =>
    Reader.advance
    let record ← readElements layout.lengthTitle layout.fields 0 layout.blank
    let value ← layout.finish record
    Reader.closeList
    return value
  | some '{' =>
    Reader.advance
    let (seen, record) ← readKeys layout ((← get).length + 1) true [] layout.blank
    match layout.missing? seen with
    | some name => throw (.missingField name)
    | none =>
      let value ← layout.finish record
      Reader.closeObject
      return value
  | some _ => Reader.refuse (.record layout.title)

end Layout

/-- Types with a form in documents: a reader, and a writer of the shortest form. -/
class Documented (α : Type) where
  read : Reader α
  write : α → List Char

/-- The value of a whole document, behind which only gaps may follow. -/
def decode (α : Type) [Documented α] (text : String) : Except Mistake α := do
  let (value, rest) ← (Documented.read : Reader α) text.toList
  if (dropGaps rest).isEmpty then return value else throw .trailingCharacters

def encode [Documented α] (value : α) : String := String.ofList (Documented.write value)

end ClusterPool.Document
