import ClusterPool.Document.Mistake

/-! Quoted texts of a document. A scanner takes one character at a time and remembers how far
inside an escape it stands; what it yields are code points, because one of the rules lets a
surrogate stand alone. Beside it stands the writer that gives each text its one short form. -/
namespace ClusterPool.Document

/-- Which texts are let through. `controls` admits raw control characters, and `surrogates`
admits escaped surrogates without their partner. -/
structure TextRule where
  controls : Bool
  surrogates : Bool

namespace TextRule

/-- For texts that become strings. -/
def strict : TextRule := ⟨false, false⟩

/-- For texts that become bytes. -/
def bytes : TextRule := ⟨true, true⟩

/-- For texts that are passed over. -/
def skipped : TextRule := ⟨false, true⟩

end TextRule

/-- How far inside an escape a scanner stands. `hex` has read some of the four digits, and keeps
the high surrogate of the escape before it, if one came directly before. -/
inductive EscapeState
  | plain
  | slash
  | hex (high : Option Nat) (value : Nat) (left : Nat)
  | high (unit : Nat)
  | highSlash (unit : Nat)

def isHighSurrogate (unit : Nat) : Bool := 0xD800 ≤ unit && unit ≤ 0xDBFF

def isLowSurrogate (unit : Nat) : Bool := 0xDC00 ≤ unit && unit ≤ 0xDFFF

/-- The code point that a high and a low surrogate stand for. -/
def joinSurrogates (high low : Nat) : Nat := (high - 0xD800) * 0x400 + (low - 0xDC00) + 0x10000

/-- The character that a backslash and this letter stand for. -/
def shortEscape? (c : Char) : Option Char :=
  match c with
  | '"' => some '"'
  | '\\' => some '\\'
  | '/' => some '/'
  | 'b' => some '\x08'
  | 'f' => some '\x0c'
  | 'n' => some '\n'
  | 'r' => some '\r'
  | 't' => some '\t'
  | _ => none

def hexDigit? (c : Char) : Option Nat :=
  if '0' ≤ c ∧ c ≤ '9' then some (c.toNat - '0'.toNat)
  else if 'a' ≤ c ∧ c ≤ 'f' then some (c.toNat - 'a'.toNat + 10)
  else if 'A' ≤ c ∧ c ≤ 'F' then some (c.toNat - 'A'.toNat + 10)
  else none

/-- Whether the characters fill at least so many bytes. -/
def fillsBytes (count : Nat) : List Char → Bool
  | [] => count == 0
  | c :: rest => count ≤ c.utf8Size || fillsBytes (count - c.utf8Size) rest

/-- What a scanner does after one character: the text is over, or it goes on from a state. Both
carry the code points that are read by now. -/
inductive ScanStep
  | finished (read : List Nat)
  | goOn (state : EscapeState) (read : List Nat)

/-- Puts code points before those that a step has read. -/
def ScanStep.behind (codes : List Nat) : ScanStep → ScanStep
  | .finished read => .finished (codes ++ read)
  | .goOn state read => .goOn state (codes ++ read)

/-- A character outside every escape. -/
def scanPlain (rule : TextRule) (c : Char) : Except Mistake ScanStep :=
  if c = '"' then .ok (.finished [])
  else if c = '\\' then .ok (.goOn .slash [])
  else if c.toNat < 0x20 && !rule.controls then .error .controlCharacter
  else .ok (.goOn .plain [c.toNat])

/-- The letter after a backslash. -/
def scanSlash (c : Char) : Except Mistake ScanStep :=
  if c = 'u' then .ok (.goOn (.hex none 0 4) [])
  else match shortEscape? c with
    | some meant => .ok (.goOn .plain [meant.toNat])
    | none => .error .badEscape

/-- The end of the four digits of an escape. -/
def scanUnit (rule : TextRule) (high : Option Nat) (value : Nat) : Except Mistake ScanStep :=
  match high with
  | none =>
    if isLowSurrogate value && !rule.surrogates then .error .loneSurrogate
    else if isHighSurrogate value then .ok (.goOn (.high value) [])
    else .ok (.goOn .plain [value])
  | some first =>
    if isLowSurrogate value then .ok (.goOn .plain [joinSurrogates first value])
    else if !rule.surrogates then .error .loneSurrogate
    else if isHighSurrogate value then .ok (.goOn (.high value) [first])
    else .ok (.goOn .plain [first, value])

/-- One character of a text. An escape that the end of the document cuts off counts as an early
end, whatever its digits are; `rest` is what follows the character. -/
def scanChar (rule : TextRule) (state : EscapeState) (c : Char) (rest : List Char) :
    Except Mistake ScanStep :=
  match state with
  | .plain => scanPlain rule c
  | .slash => scanSlash c
  | .hex high value left =>
    match hexDigit? c with
    | none => .error (if fillsBytes left (c :: rest) then .badEscape else .endsInText)
    | some digit =>
      if left ≤ 1 then scanUnit rule high (16 * value + digit)
      else .ok (.goOn (.hex high (16 * value + digit) (left - 1)) [])
  | .high first =>
    if c = '\\' then .ok (.goOn (.highSlash first) [])
    else if rule.surrogates then (scanPlain rule c).map (.behind [first])
    else .error .cutSurrogate
  | .highSlash first =>
    if c = 'u' then .ok (.goOn (.hex (some first) 0 4) [])
    else if rule.surrogates then (scanSlash c).map (.behind [first])
    else .error .cutSurrogate

/-- The scan of one text, from behind its opening quote to behind its closing one. The code
points read so far are kept last first. -/
def scanText (rule : TextRule) : EscapeState → List Nat → List Char →
    Except Mistake (List Nat × List Char)
  | _, _, [] => .error .endsInText
  | state, codes, c :: rest =>
    match scanChar rule state c rest with
    | .error mistake => .error mistake
    | .ok (.finished read) => .ok ((read.reverseAux codes).reverse, rest)
    | .ok (.goOn next read) => scanText rule next (read.reverseAux codes) rest

/-- The bytes of a code point, also of a surrogate that stands alone. -/
def codeBytes (code : Nat) : List UInt8 :=
  if code < 0x80 then [code.toUInt8]
  else if code < 0x800 then [(0xC0 + code / 0x40).toUInt8, (0x80 + code % 0x40).toUInt8]
  else if code < 0x10000 then
    [(0xE0 + code / 0x1000).toUInt8, (0x80 + code / 0x40 % 0x40).toUInt8,
      (0x80 + code % 0x40).toUInt8]
  else
    [(0xF0 + code / 0x40000).toUInt8, (0x80 + code / 0x1000 % 0x40).toUInt8,
      (0x80 + code / 0x40 % 0x40).toUInt8, (0x80 + code % 0x40).toUInt8]

/-- How one character is written between quotes: a letter behind a backslash where there is one,
four digits for the other control characters, and else itself. -/
def writtenChar (c : Char) : List Char :=
  if c = '"' then ['\\', '"']
  else if c = '\\' then ['\\', '\\']
  else if c = '\x08' then ['\\', 'b']
  else if c = '\x0c' then ['\\', 'f']
  else if c = '\n' then ['\\', 'n']
  else if c = '\r' then ['\\', 'r']
  else if c = '\t' then ['\\', 't']
  else if c.toNat < 0x20 then
    ['\\', 'u', '0', '0', Nat.digitChar (c.toNat / 16), Nat.digitChar (c.toNat % 16)]
  else [c]

/-- A text between its quotes. -/
def writtenText (text : String) : List Char :=
  '"' :: text.toList.flatMap writtenChar ++ ['"']

end ClusterPool.Document
