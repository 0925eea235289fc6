import ClusterPool.Document.Numeral
import ClusterPool.Document.Quotation
import ClusterPool.Names.Basic

/-! Readers of documents. A reader takes what it needs from the front of the remaining
characters, and the first mistake from the left ends the reading. Readers that repeat get as many
turns as there are characters left, which no document uses up. -/
namespace ClusterPool.Document

/-- Reads a value from the remaining characters. -/
abbrev Reader := StateT (List Char) (Except Mistake)

def isGap (c : Char) : Bool := c == ' ' || c == '\n' || c == '\t' || c == '\r'

def dropGaps (text : List Char) : List Char := text.dropWhile isGap

/-- The characters of a word, after its first one. -/
def readWord : List Char → List Char → Except Mistake (List Char)
  | [], rest => .ok rest
  | _ :: _, [] => .error .endsInValue
  | letter :: letters, c :: rest =>
    if c = letter then readWord letters rest else .error .wordExpected

def stringOfCodes (codes : List Nat) : String := String.ofList (codes.map Char.ofNat)

/-- The mistake of finding something else than `wanted`. What is found is read first when it is
no list or object, and may be broken itself. -/
def refusal (wanted : Wanted) (text : List Char) : Mistake :=
  let wrong (found : Found) (read : Except Mistake Unit) : Mistake :=
    match read with
    | .ok _ => .wrongType found wanted
    | .error mistake => mistake
  let numeral (negative : Bool) (digits : List Char) : Mistake :=
    match readNumeral negative digits with
    | .ok (number, _) => .wrongType number.found wanted
    | .error mistake => mistake
  match text with
  | 'n' :: rest => wrong .null (discard (readWord ['u', 'l', 'l'] rest))
  | 't' :: rest => wrong (.flag true) (discard (readWord ['r', 'u', 'e'] rest))
  | 'f' :: rest => wrong (.flag false) (discard (readWord ['a', 'l', 's', 'e'] rest))
  | '"' :: rest =>
    match scanText .strict .plain [] rest with
    | .ok (codes, _) => .wrongType (.text (stringOfCodes codes)) wanted
    | .error mistake => mistake
  | '[' :: _ => .wrongType .list wanted
  | '{' :: _ => .wrongType .object wanted
  | '-' :: rest => numeral true rest
  | rest => if startsWithDigit rest then numeral false rest else .valueExpected

namespace Reader

/-- The next character behind gaps, which stays in place. -/
def peek : Reader (Option Char) := fun text =>
  let rest := dropGaps text
  .ok (rest.head?, rest)

/-- Takes the next character. -/
def advance : Reader Unit := modify List.tail

def refuse (wanted : Wanted) : Reader α := do throw (refusal wanted (← get))

/-- The rest of a quoted text. -/
def quoted (rule : TextRule) : Reader (List Nat) := fun text => scanText rule .plain [] text

def text : Reader String := do
  match ← peek with
  | none => throw .endsInValue
  | some '"' => advance; return stringOfCodes (← quoted .strict)
  | some _ => refuse .text

def numeral (wanted : Wanted) : Reader Numeral := do
  match ← peek with
  | none => throw .endsInValue
  | some '-' => advance; fun rest => readNumeral true rest
  | some c =>
    if (Text.digit? c).isSome then fun rest => readNumeral false rest else refuse wanted

/-- A whole number below two to the power `width`. -/
def unsigned (width : Nat) : Reader Nat := do
  match ← numeral (.unsigned width) with
  | .whole value =>
    if value < Nat.pow 2 width then return value else throw (.outOfRange value (.unsigned width))
  | .negative value => throw (.outOfRange (-(value : Int)) (.unsigned width))
  | .fraction bits => throw (.wrongType (.fraction bits) (.unsigned width))

/-- A whole number that fits into `width` bits with its sign. -/
def signed (width : Nat) : Reader Int := do
  match ← numeral (.signed width) with
  | .whole value =>
    if value < Nat.pow 2 (width - 1) then return value else throw (.outOfRange value (.signed width))
  | .negative value =>
    if value ≤ Nat.pow 2 (width - 1) then return -(value : Int)
    else throw (.outOfRange (-(value : Int)) (.signed width))
  | .fraction bits => throw (.wrongType (.fraction bits) (.signed width))

def null : Reader Unit := do
  match ← peek with
  | none => throw .endsInValue
  | some 'n' => advance; fun rest => return ((), ← readWord ['u', 'l', 'l'] rest)
  | some _ => refuse .null

/-- Whether another element of a list follows; the comma before it is taken. -/
def anotherElement (first : Bool) : Reader Bool := do
  match ← peek with
  | none => throw .endsInList
  | some ']' => return false
  | some c =>
    if first then return true
    else if c = ',' then
      advance
      match ← peek with
      | none => throw .endsInValue
      | some ']' => throw .trailingComma
      | some _ => return true
    else throw .listSeparatorExpected

/-- The closing bracket of a list, after which nothing more of it is wanted. -/
def closeList : Reader Unit := do
  match ← peek with
  | none => throw .endsInList
  | some ']' => advance
  | some ',' =>
    advance
    match ← peek with
    | some ']' => throw .trailingComma
    | _ => throw .trailingCharacters
  | some _ => throw .trailingCharacters

/-- Whether another key of an object follows; the comma before it is taken. -/
def anotherKey (first : Bool) : Reader Bool := do
  match ← peek with
  | none => throw .endsInObject
  | some '}' => return false
  | some c =>
    if first then (if c = '"' then return true else throw .keyExpected)
    else if c = ',' then
      advance
      match ← peek with
      | none => throw .endsInValue
      | some '"' => return true
      | some '}' => throw .trailingComma
      | some _ => throw .keyExpected
    else throw .objectSeparatorExpected

/-- A key that is known to begin here. -/
def key : Reader String := do advance; return stringOfCodes (← quoted .strict)

def colon : Reader Unit := do
  match ← peek with
  | none => throw .endsInObject
  | some ':' => advance
  | some _ => throw .colonExpected

/-- The closing brace of an object. -/
def closeObject : Reader Unit := do
  match ← peek with
  | none => throw .endsInObject
  | some '}' => advance
  | some ',' => throw .trailingComma
  | some _ => throw .trailingCharacters

/-- The elements of a list behind its opening bracket, last first. -/
def elementsFrom (item : Reader α) : Nat → Bool → List α → Reader (List α)
  | 0, _, _ => throw .endsInList
  | turns + 1, first, read => do
    if ← anotherElement first then
      let value ← item
      elementsFrom item turns false (value :: read)
    else return read.reverse

/-- A list behind its opening bracket. -/
def elements (item : Reader α) : Reader (List α) := do
  let values ← elementsFrom item ((← get).length + 1) true []
  closeList
  return values

def list (item : Reader α) : Reader (List α) := do
  match ← peek with
  | none => throw .endsInValue
  | some '[' => advance; elements item
  | some _ => refuse .list

/-- Bytes, as a list of their values or as a text that stands for its own bytes. -/
def bytes : Reader (List UInt8) := do
  match ← peek with
  | none => throw .endsInValue
  | some '"' => advance; return (← quoted .bytes).flatMap codeBytes
  | some '[' => advance; elements (do return (← unsigned 8).toUInt8)
  | some _ => refuse .bytes

/-- The entries of an object behind its opening brace; of two under one name the last counts. -/
def entriesFrom (value : Reader α) : Nat → Bool → NameTable α → Reader (NameTable α)
  | 0, _, _ => throw .endsInObject
  | turns + 1, first, read => do
    if ← anotherKey first then
      let name ← key
      colon
      entriesFrom value turns false (read.insert name (← value))
    else return read

def table (value : Reader α) : Reader (NameTable α) := do
  match ← peek with
  | none => throw .endsInValue
  | some '{' =>
    advance
    let entries ← entriesFrom value ((← get).length + 1) true .empty
    closeObject
    return entries
  | some _ => refuse .object

end Reader
end ClusterPool.Document
