import Mathlib.Data.List.Forall2
import ClusterPool.Batch
import ClusterPool.Cluster
import ClusterPool.Settings
import ClusterPool.Tally

/-! How a value may be spelled in a document. Most values have many spellings: there may be gaps
between any two parts, every character of a text may be escaped, the fields of a record may come in
any order and among others that mean nothing, or in their own order without their names, and a field
that is empty by default may be left out.

Nothing here refers to readers. What readers make of these spellings is proved elsewhere. -/
namespace ClusterPool.Document

/-- Spaces, tabs and line ends. -/
def Gaps (text : List Char) : Prop := ∀ c ∈ text, c ∈ [' ', '\n', '\t', '\r']

/-- A form with gaps around it. -/
def Padded (form : List Char → Prop) (text : List Char) : Prop :=
  ∃ before core after, Gaps before ∧ form core ∧ Gaps after ∧ text = before ++ (core ++ after)

/-- Parts with commas between them, inside brackets. Without parts there may be gaps. -/
def Enclosed (opening closing : Char) (parts : List (List Char)) (text : List Char) : Prop :=
  ∃ gaps, Gaps gaps ∧ text = opening :: (gaps ++ ([','].intercalate parts ++ [closing]))

/-! Texts. -/

/-- The letters that may stand behind a backslash, and the characters that they stand for. -/
def shortEscapes : List (Char × Char) :=
  [('"', '"'), ('\\', '\\'), ('/', '/'), ('b', '\x08'), ('f', '\x0c'), ('n', '\n'), ('r', '\r'),
    ('t', '\t')]

/-- A hexadecimal digit, with a small or a capital letter. -/
def HexDigit (value : Nat) (c : Char) : Prop :=
  value < 16 ∧ (c = Nat.digitChar value ∨ c = (Nat.digitChar value).toUpper)

/-- Four hexadecimal digits. -/
def HexUnit (unit : Nat) (digits : List Char) : Prop :=
  ∃ first second third fourth, digits = [first, second, third, fourth] ∧
    HexDigit (unit / 4096) first ∧ HexDigit (unit / 256 % 16) second ∧
    HexDigit (unit / 16 % 16) third ∧ HexDigit (unit % 16) fourth

/-- How one character may be spelled between quotes: as it is, by a letter behind a backslash, by the
digits of its code point, or by those of the two surrogates that stand for it. -/
inductive CharSpelled : Char → List Char → Prop
  | plain {c : Char} (printable : 0x20 ≤ c.toNat) (quote : c ≠ '"') (slash : c ≠ '\\') :
    CharSpelled c [c]
  | short {letter c : Char} (stands : (letter, c) ∈ shortEscapes) : CharSpelled c ['\\', letter]
  | unit {c : Char} {digits : List Char} (hex : HexUnit c.toNat digits) :
    CharSpelled c ('\\' :: 'u' :: digits)
  | pair {c : Char} {high low : List Char} (beyond : 0x10000 ≤ c.toNat)
    (first : HexUnit (0xD800 + (c.toNat - 0x10000) / 0x400) high)
    (second : HexUnit (0xDC00 + (c.toNat - 0x10000) % 0x400) low) :
    CharSpelled c ('\\' :: 'u' :: (high ++ '\\' :: 'u' :: low))

/-- A text between quotes. -/
def Quoted (text : String) (spelled : List Char) : Prop :=
  ∃ pieces, List.Forall₂ CharSpelled text.toList pieces ∧ spelled = '"' :: (pieces.flatten ++ ['"'])

/-! Values whose content does not matter. -/

/-- What a text between quotes is made of, where it need not be a text. A surrogate may then stand
alone. -/
inductive Piece : List Char → Prop
  | plain {c : Char} (printable : 0x20 ≤ c.toNat) (quote : c ≠ '"') (slash : c ≠ '\\') : Piece [c]
  | short {letter c : Char} (stands : (letter, c) ∈ shortEscapes) : Piece ['\\', letter]
  | unit {unit : Nat} {digits : List Char} (hex : HexUnit unit digits) :
    Piece ('\\' :: 'u' :: digits)

def AnyQuoted (spelled : List Char) : Prop :=
  ∃ pieces : List (List Char), (∀ piece ∈ pieces, Piece piece) ∧
    spelled = '"' :: (pieces.flatten ++ ['"'])

def Digits (text : List Char) : Prop := text ≠ [] ∧ ∀ c ∈ text, '0' ≤ c ∧ c ≤ '9'

/-- Digits of which the first is no zero, unless it is the only one. -/
def WholePart (text : List Char) : Prop := Digits text ∧ (text.head? = some '0' → text = ['0'])

/-- Nothing, or a point with digits behind it. -/
def FractionPart (text : List Char) : Prop := text = [] ∨ ∃ digits, Digits digits ∧ text = '.' :: digits

/-- Nothing, or an exponent with or without a sign. -/
def PowerPart (text : List Char) : Prop :=
  text = [] ∨ ∃ letter sign digits, letter ∈ ['e', 'E'] ∧ sign ∈ [[], ['+'], ['-']] ∧
    Digits digits ∧ text = letter :: (sign ++ digits)

/-- A number of any size. -/
def AnyNumber (text : List Char) : Prop :=
  ∃ sign whole fraction power, sign ∈ [[], ['-']] ∧ WholePart whole ∧ FractionPart fraction ∧
    PowerPart power ∧ text = sign ++ (whole ++ (fraction ++ power))

def Frame.opening : Frame → Char
  | list => '['
  | object => '{'

/-- What is well-formed: a value, an entry of a list or of an object with the gaps around it, or some
entries with commas between them. -/
inductive Part
  | value
  | entry (frame : Frame)
  | entries (frame : Frame)

/-- The texts that are well-formed, however deep they are. -/
inductive WellFormed : Part → List Char → Prop
  | word {text : List Char}
    (one : text ∈ [['n', 'u', 'l', 'l'], ['t', 'r', 'u', 'e'], ['f', 'a', 'l', 's', 'e']]) :
    WellFormed .value text
  | quoted {text : List Char} (quoted : AnyQuoted text) : WellFormed .value text
  | number {text : List Char} (number : AnyNumber text) : WellFormed .value text
  | empty (frame : Frame) {gaps : List Char} (gap : Gaps gaps) :
    WellFormed .value (frame.opening :: (gaps ++ [frame.closing]))
  | enclosed {frame : Frame} {inner : List Char} (entries : WellFormed (.entries frame) inner) :
    WellFormed .value (frame.opening :: (inner ++ [frame.closing]))
  | element {before value after : List Char} (early : Gaps before)
    (element : WellFormed .value value) (late : Gaps after) :
    WellFormed (.entry .list) (before ++ (value ++ after))
  | member {first key second third value last : List Char} (outer : Gaps first)
    (name : AnyQuoted key) (early : Gaps second) (late : Gaps third)
    (element : WellFormed .value value) (end_ : Gaps last) :
    WellFormed (.entry .object)
      (first ++ (key ++ (second ++ ':' :: (third ++ (value ++ last)))))
  | last {frame : Frame} {entry : List Char} (only : WellFormed (.entry frame) entry) :
    WellFormed (.entries frame) entry
  | more {frame : Frame} {entry rest : List Char} (head : WellFormed (.entry frame) entry)
    (tail : WellFormed (.entries frame) rest) : WellFormed (.entries frame) (entry ++ ',' :: rest)

/-! Lists, tables and records. -/

/-- Spellings of these values, in their order, as a list. -/
def Listed (form : α → List Char → Prop) (values : List α) (text : List Char) : Prop :=
  ∃ parts, List.Forall₂ (fun value => Padded (form value)) values parts ∧ Enclosed '[' ']' parts text

/-- A key and a value, with gaps around both. -/
def Keyed (name : String) (form : List Char → Prop) (text : List Char) : Prop :=
  ∃ first key second value, Gaps first ∧ Quoted name key ∧ Gaps second ∧ Padded form value ∧
    text = first ++ (key ++ (second ++ ':' :: value))

/-- Spellings of these entries, in their order, as an object. -/
def Tabled (form : α → List Char → Prop) (entries : List (String × α)) (text : List Char) : Prop :=
  ∃ parts, List.Forall₂ (fun entry => Keyed entry.1 (form entry.2)) entries parts ∧
    Enclosed '{' '}' parts text

theorem Padded.mono {form other : List Char → Prop} {text : List Char}
    (weaker : ∀ core, form core → other core) (padded : Padded form text) : Padded other text := by
  obtain ⟨before, core, after, early, one, late, same⟩ := padded
  exact ⟨before, core, after, early, weaker core one, late, same⟩

theorem Listed.mono {form other : α → List Char → Prop} {values : List α} {text : List Char}
    (weaker : ∀ value core, form value core → other value core) (listed : Listed form values text) :
    Listed other values text := by
  obtain ⟨parts, forms, enclosed⟩ := listed
  exact ⟨parts, forms.imp fun value _ => Padded.mono (weaker value), enclosed⟩

theorem Tabled.mono {form other : α → List Char → Prop} {entries : List (String × α)}
    {text : List Char} (weaker : ∀ value core, form value core → other value core)
    (tabled : Tabled form entries text) : Tabled other entries text := by
  obtain ⟨parts, forms, enclosed⟩ := tabled
  refine ⟨parts, forms.imp fun entry part keyed => ?_, enclosed⟩
  obtain ⟨first, key, second, value, early, quoted, late, padded, same⟩ := keyed
  exact ⟨first, key, second, value, early, quoted, late, padded.mono (weaker entry.2), same⟩

/-- A field of a record with the spellings of its value, and whether it may be left out. -/
structure Entry where
  name : String
  form : List Char → Prop
  dispensable : Prop

/-- The parts of an object that has these fields in this order, and among them, unless it is closed,
any well-formed values under other names. Those names are texts, without lone surrogates, since they
are read before it is known that nobody asks for them; inside the values keys need not be texts. -/
inductive Members (closed : Bool) (known : List String) : List Entry → List (List Char) → Prop
  | nil : Members closed known [] []
  | known {entry : Entry} {entries : List Entry} {part : List Char} {parts : List (List Char)}
    (keyed : Keyed entry.name entry.form part) (rest : Members closed known entries parts) :
    Members closed known (entry :: entries) (part :: parts)
  | unknown {name : String} {entries : List Entry} {part : List Char} {parts : List (List Char)}
    (free : closed = false) (other : name ∉ known) (keyed : Keyed name (WellFormed .value) part)
    (rest : Members closed known entries parts) : Members closed known entries (part :: parts)

/-- An object with the fields of a record in any order. Some that may be left out are hidden. -/
def AsObject (closed : Bool) (entries : List Entry) (text : List Char) : Prop :=
  ∃ shown hidden parts, (shown ++ hidden).Perm entries ∧ (∀ entry ∈ hidden, entry.dispensable) ∧
    Members closed (entries.map Entry.name) shown parts ∧ Enclosed '{' '}' parts text

/-- The list of the fields of a record, in their order and without their names. Some that may be left
out are hidden at the end. -/
def AsList (entries : List Entry) (text : List Char) : Prop :=
  ∃ shown hidden parts, shown ++ hidden = entries ∧ (∀ entry ∈ hidden, entry.dispensable) ∧
    List.Forall₂ (fun entry => Padded (Entry.form entry)) shown parts ∧ Enclosed '[' ']' parts text

def Recorded (closed : Bool) (entries : List Entry) (text : List Char) : Prop :=
  AsObject closed entries text ∨ AsList entries text

/-- Types whose values have spellings. -/
class Spelled (α : Type) where
  form : α → List Char → Prop

instance : Spelled String := ⟨Quoted⟩

/-- A whole number has one spelling. -/
instance : Spelled UInt64 := ⟨fun value text => text = writtenNat value.toNat⟩

instance : Spelled UInt32 := ⟨fun value text => text = writtenNat value.toNat⟩

instance : Spelled UInt8 := ⟨fun value text => text = writtenNat value.toNat⟩

instance : Spelled Int64 := ⟨fun value text => text = writtenInt value.toInt⟩

instance [Spelled α] : Spelled (List α) := ⟨Listed Spelled.form⟩

/-- A set is a list of its names in any order, in which a name may come twice. -/
instance : Spelled NameSet :=
  ⟨fun set text => ∃ names, NameSet.ofList names = set ∧ Spelled.form names text⟩

/-- A table is an object with its entries in any order. Of two under one name the last counts. -/
instance : Spelled (NameTable String) :=
  ⟨fun table text => ∃ entries, NameTable.ofEntries entries = table ∧
    Tabled Spelled.form entries text⟩

/-- A document that holds this value, with gaps around it. -/
def Spells [Spelled α] (value : α) (text : String) : Prop :=
  Padded (Spelled.form value) text.toList

/-- A field that every spelling of a record has. -/
def Entry.needed [Spelled α] (name : String) (value : α) : Entry := ⟨name, Spelled.form value, False⟩

/-- A field that may be left out while it is empty. -/
def Entry.optional [Spelled α] (name : String) (value : α) (empty : α) : Entry :=
  ⟨name, Spelled.form value, value = empty⟩

end Document
open Document

/-- The nanoseconds fit into the width that they have in a document. -/
theorem Duration.nanos_toNat (span : Duration) :
    (UInt32.ofNat span.nanos.val).toNat = span.nanos.val :=
  UInt32.toNat_ofNat_of_lt' (Nat.lt_trans span.nanos.isLt (by decide))

/-- A length of time admits no other fields. -/
instance : Spelled Duration where
  form span := Recorded true [
    .needed "secs" span.seconds, .needed "nanos" (UInt32.ofNat span.nanos.val)]

instance : Spelled Settings where
  form settings := Recorded false [
    .needed "grace_period" settings.grace, .needed "reload_interval" settings.reloadEvery,
    .needed "reclaim_interval" settings.reclaimEvery]

instance : Spelled Cluster where
  form cluster := Recorded false [
    .needed "cluster_name" cluster.name, .needed "url" cluster.url,
    .optional "params" cluster.params .empty]

instance : Spelled Node where
  form node := Recorded false [
    .needed "node_id" node.id, .optional "producer_settings" node.producerSettings .empty]

instance : Spelled Inventory where
  form inventory := Recorded false [
    .optional "clusters" inventory.clusters [], .optional "topics" inventory.topics .empty]

instance : Spelled Batch where
  form batch := Recorded false [
    .needed "group_id" batch.group, .needed "stream_id" batch.stream, .needed "topic" batch.topic,
    .needed "payload" batch.payload, .needed "message_count" batch.messages,
    .needed "dispatch_time_ms" batch.dispatchedAt]

instance : Spelled Tally where
  form tally := Recorded false (Counted.all.map fun event => .needed event.name (tally.get event))

end ClusterPool
