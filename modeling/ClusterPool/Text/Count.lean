/-! Counts written in decimal digits, an optional plus sign and ASCII digits with a value that fits
into 64 bits, and the removal of white space from both ends of a text that may hold one. -/
namespace ClusterPool.Text

/-- The characters with the property White_Space. -/
def isBlank (c : Char) : Bool :=
  let code := c.toNat
  (0x9 ≤ code && code ≤ 0xD) || code == 0x20 || code == 0x85 || code == 0xA0 || code == 0x1680 ||
    (0x2000 ≤ code && code ≤ 0x200A) || code == 0x2028 || code == 0x2029 || code == 0x202F ||
    code == 0x205F || code == 0x3000

/-- The text without the white space at its two ends. -/
def trim (text : List Char) : List Char :=
  ((text.dropWhile isBlank).reverse.dropWhile isBlank).reverse

/-- Why a text is not a count. -/
inductive CountFault
  | empty
  | invalidDigit
  | tooLarge
  deriving DecidableEq, Inhabited

def CountFault.message : CountFault → String
  | .empty => "cannot parse integer from empty string"
  | .invalidDigit => "invalid digit found in string"
  | .tooLarge => "number too large to fit in target type"

/-- The value of an ASCII digit. -/
def digit? (c : Char) : Option Nat :=
  if '0' ≤ c ∧ c ≤ '9' then some (c.toNat - '0'.toNat) else none

/-- Reads digits after those whose value is `value`. The first character that is no digit or
that makes the value too large decides. -/
def readDigits (value : Nat) : List Char → Except CountFault Nat
  | [] => .ok value
  | c :: rest =>
    match digit? c with
    | none => .error .invalidDigit
    | some digit =>
      if value * 10 + digit < UInt64.size then readDigits (value * 10 + digit) rest
      else .error .tooLarge

/-- The count that a text writes. A sign needs a digit behind it. -/
def readCount : List Char → Except CountFault Nat
  | [] => .error .empty
  | ['+'] => .error .invalidDigit
  | '+' :: digits => readDigits 0 digits
  | digits => readDigits 0 digits

end ClusterPool.Text
