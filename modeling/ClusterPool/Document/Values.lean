import ClusterPool.Document.Layout
import ClusterPool.Time

/-! The forms in documents of texts, numbers, lists, sets, tables and lengths of time. -/
namespace ClusterPool.Document

/-- Parts with commas between them, inside brackets. -/
def enclosed (opening closing : Char) (parts : List (List Char)) : List Char :=
  opening :: List.intercalate [','] parts ++ [closing]

def writtenList (parts : List (List Char)) : List Char := enclosed '[' ']' parts

/-- An object with these keys and written values. -/
def writtenObject (entries : List (String × List Char)) : List Char :=
  enclosed '{' '}' (entries.map fun entry => writtenText entry.1 ++ ':' :: entry.2)

def writtenNat (value : Nat) : List Char := Nat.toDigits 10 value

def writtenInt (value : Int) : List Char :=
  if value < 0 then '-' :: writtenNat value.natAbs else writtenNat value.natAbs

instance : Documented String where
  read := Reader.text
  write := writtenText

instance : Documented UInt64 where
  read := do return (← Reader.unsigned 64).toUInt64
  write value := writtenNat value.toNat

instance : Documented UInt32 where
  read := do return (← Reader.unsigned 32).toUInt32
  write value := writtenNat value.toNat

instance : Documented Int64 where
  read := do return Int64.ofInt (← Reader.signed 64)
  write value := writtenInt value.toInt

instance [Documented α] : Documented (List α) where
  read := Reader.list Documented.read
  write values := writtenList (values.map Documented.write)

/-- A set is a list; a name that comes twice is in it once. -/
instance : Documented NameSet where
  read := do return NameSet.ofList (← Reader.list Reader.text)
  write set := writtenList (set.names.map writtenText)

instance : Documented (NameTable String) where
  read := Reader.table Reader.text
  write table := writtenObject (table.entries.map fun entry => (entry.1, writtenText entry.2))

/-- Bytes are a list of numbers. -/
def writtenBytes (bytes : List UInt8) : List Char :=
  writtenList (bytes.map fun byte => writtenNat byte.toNat)

/-- Seconds and nanoseconds as they stand in a document; a second or more of nanoseconds counts
as seconds. -/
def durationOf (parts : UInt64 × UInt32) : Except Mistake Duration :=
  let seconds := parts.1.toNat + parts.2.toNat / 1000000000
  if seconds < UInt64.size then
    .ok ⟨seconds.toUInt64, ⟨parts.2.toNat % 1000000000, Nat.mod_lt _ (by decide)⟩⟩
  else .error .durationTooLong

def durationLayout : Layout (UInt64 × UInt32) Duration where
  title := "struct Duration"
  counted := false
  closed := true
  blank := (0, 0)
  fields := [
    .needed "secs" Documented.read fun seconds parts => (seconds, parts.2),
    .needed "nanos" Documented.read fun nanos parts => (parts.1, nanos)]
  finish := durationOf

instance : Documented Duration where
  read := durationLayout.read
  write span := writtenObject
    [("secs", writtenNat span.seconds.toNat), ("nanos", writtenNat span.nanos.val)]

end ClusterPool.Document
