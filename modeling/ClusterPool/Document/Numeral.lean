import ClusterPool.Document.Mistake
import ClusterPool.Text.Count

/-! Numbers of a document. A number is whole and fits into 64 bits, or it counts as fractional:
one with a point or an exponent, a whole one that is too large, and zero with a minus sign. A
fractional number keeps as many leading digits as fit into 64 bits and is scaled by one division
or multiplication for every three hundred and eight places. -/
namespace ClusterPool.Document

/-- A number as a document gives it. -/
inductive Numeral
  | whole (value : Nat)
  | negative (value : Nat)
  | fraction (bits : UInt64)
  deriving DecidableEq, Inhabited

def Numeral.found : Numeral → Found
  | .whole value => .whole value
  | .negative value => .whole (-(value : Int))
  | .fraction bits => .fraction bits

def startsWithDigit : List Char → Bool
  | [] => false
  | c :: _ => (Text.digit? c).isSome

/-- The rest after a run of digits. -/
def dropDigits : List Char → List Char
  | [] => []
  | c :: rest => if (Text.digit? c).isSome then dropDigits rest else c :: rest

/-- Takes digits as long as the value fits into 64 bits. Answers the value, how many digits were
taken, and the rest. -/
def takeFitting (value taken : Nat) : List Char → Nat × Nat × List Char
  | [] => (value, taken, [])
  | c :: rest =>
    match Text.digit? c with
    | none => (value, taken, c :: rest)
    | some digit =>
      if value * 10 + digit < UInt64.size then takeFitting (value * 10 + digit) (taken + 1) rest
      else (value, taken, c :: rest)

/-- Scales by powers of ten, at most 308 places at once. A value that has become zero stays so,
and one that leaves the range upwards is refused. -/
def scale (turns : Nat) (value : Float) (exponent : Int) : Except Mistake Float :=
  if exponent.natAbs ≤ 308 then
    if 0 ≤ exponent then
      let scaled := value * Float.ofScientific 1 false exponent.natAbs
      if scaled.isInf then .error .numberTooLarge else .ok scaled
    else .ok (value / Float.ofScientific 1 false exponent.natAbs)
  else if value == 0 then .ok value
  else if 0 ≤ exponent then .error .numberTooLarge
  else match turns with
    | 0 => .ok 0
    | turns + 1 => scale turns (value / 1e308) (exponent + 308)

/-- A fractional number from its leading digits and its power of ten. -/
def fractional (negative : Bool) (digits : Nat) (exponent : Int) : Except Mistake Numeral := do
  let value ← scale 4 digits.toUInt64.toFloat exponent
  return .fraction (if negative then -value else value).toBits

/-- The exponent behind its letter. An exponent beyond 31 bits leaves zero, or a number that is
too large. -/
def readExponent (negative : Bool) (digits : Nat) (exponent : Int) (text : List Char) :
    Except Mistake (Numeral × List Char) :=
  let (down, text) := match text with
    | '+' :: rest => (false, rest)
    | '-' :: rest => (true, rest)
    | rest => (false, rest)
  match text with
  | [] => .error .endsInValue
  | c :: rest =>
    if (Text.digit? c).isNone then .error .badNumber
    else
      let places := (c :: rest).takeWhile fun d => (Text.digit? d).isSome
      let size := places.foldl (fun value d => value * 10 + (Text.digit? d).getD 0) 0
      let rest := dropDigits rest
      if size ≤ Int32.maxValue.toInt then do
        let number ← fractional negative digits (if down then exponent - size else exponent + size)
        return (number, rest)
      else if digits ≠ 0 ∧ ¬ down then .error .numberTooLarge
      else .ok (.fraction (if negative then -0.0 else 0.0 : Float).toBits, rest)

/-- What follows the digits of a fractional number. -/
def readScaled (negative : Bool) (digits : Nat) (exponent : Int) (text : List Char) :
    Except Mistake (Numeral × List Char) :=
  match text with
  | 'e' :: rest | 'E' :: rest => readExponent negative digits exponent rest
  | rest => do return (← fractional negative digits exponent, rest)

/-- The digits behind a point, at least one. Those that no longer fit are passed over. -/
def readPlaces (negative : Bool) (digits : Nat) (exponent : Int) (text : List Char) :
    Except Mistake (Numeral × List Char) :=
  match text with
  | [] => .error .endsInValue
  | c :: rest =>
    if (Text.digit? c).isNone then .error .badNumber
    else
      let (digits, taken, rest) := takeFitting digits 0 (c :: rest)
      readScaled negative digits (exponent - taken) (dropDigits rest)

/-- A number behind its minus sign, if it has one. -/
def readNumeral (negative : Bool) (text : List Char) : Except Mistake (Numeral × List Char) :=
  match text with
  | [] => .error .endsInValue
  | c :: rest =>
    if (Text.digit? c).isNone then .error .badNumber
    else if c = '0' ∧ startsWithDigit rest then .error .badNumber
    else
      let (digits, _, rest) := takeFitting 0 0 (c :: rest)
      let beyond := rest.length - (dropDigits rest).length
      match dropDigits rest with
      | '.' :: rest => readPlaces negative digits beyond rest
      | 'e' :: rest | 'E' :: rest => readExponent negative digits beyond rest
      | rest =>
        if beyond ≠ 0 ∨ (negative ∧ (digits = 0 ∨ -(digits : Int) < Int64.minValue.toInt)) then do
          return (← fractional negative digits beyond, rest)
        else if negative then .ok (.negative digits, rest)
        else .ok (.whole digits, rest)

/-- Passes over a number behind its minus sign without taking its value. -/
def skipNumeral (text : List Char) : Except Mistake (List Char) :=
  match text with
  | [] => .error .badNumber
  | c :: rest =>
    if (Text.digit? c).isNone then .error .badNumber
    else if c = '0' ∧ startsWithDigit rest then .error .badNumber
    else match dropDigits (c :: rest) with
      | '.' :: rest =>
        if startsWithDigit rest then skipPower (dropDigits rest) else .error .badNumber
      | rest => skipPower rest
where
  /-- An exponent, if there is one. -/
  skipPower : List Char → Except Mistake (List Char)
    | 'e' :: rest | 'E' :: rest =>
      let rest := match rest with
        | '+' :: rest | '-' :: rest => rest
        | rest => rest
      if startsWithDigit rest then .ok (dropDigits rest) else .error .badNumber
    | rest => .ok rest

end ClusterPool.Document
