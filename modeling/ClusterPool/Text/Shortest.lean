/-! The shortest decimal text that reads back as a given 64-bit floating point number. The
number is taken apart into an integer times a power of two, and the search for the digits is
exact arithmetic on natural numbers. -/
namespace ClusterPool.Text.Shortest

/-- The bit of the mantissa that is not written down. -/
private def implicitBit : Nat := Nat.pow 2 52

/-- The bit that tells a negative number. -/
private def signBit : Nat := Nat.pow 2 63

/-- The reals that round to a positive number: all of them over one denominator. The ends belong
to the interval when `closed` is set. -/
structure Interval where
  low : Nat
  value : Nat
  high : Nat
  scale : Nat
  closed : Bool

/-- The interval of the positive finite number with these bits. -/
def Interval.ofBits (bits : Nat) : Interval :=
  let fraction := bits % implicitBit
  let exponent := bits / implicitBit % 2048
  let mantissa := if exponent = 0 then fraction else fraction + implicitBit
  let power := max exponent 1
  let below := if fraction = 0 ∧ 1 < exponent then 1 else 2
  -- the number is `4 * mantissa` in units of two to the power `power - 1077`
  let up := Nat.pow 2 (power - 1077)
  { low := (4 * mantissa - below) * up, value := 4 * mantissa * up
    high := (4 * mantissa + 2) * up, scale := Nat.pow 2 (1077 - power), closed := mantissa % 2 = 0 }

/-- Compares `digits` times ten to the power `exponent` with a numerator of the interval. -/
private def compareWith (interval : Interval) (digits : Nat) (exponent : Int) (numerator : Nat) :
    Ordering :=
  compare (digits * Nat.pow 10 exponent.toNat * interval.scale)
    (numerator * Nat.pow 10 (-exponent).toNat)

private def holds (interval : Interval) (digits : Nat) (exponent : Int) : Bool :=
  let low := compareWith interval digits exponent interval.low
  let high := compareWith interval digits exponent interval.high
  (low == .gt || (interval.closed && low == .eq)) &&
    (high == .lt || (interval.closed && high == .eq))

/-- The greatest number of units of ten to the power `exponent` that does not pass the value. -/
private def unitsBelow (interval : Interval) (exponent : Int) : Nat :=
  interval.value * Nat.pow 10 (-exponent).toNat / (interval.scale * Nat.pow 10 exponent.toNat)

/-- The power of ten of the first digit. -/
private def leadingPower (interval : Interval) : Int :=
  if interval.scale ≤ interval.value then
    ((Nat.toDigits 10 (interval.value / interval.scale)).length : Int) - 1
  else
    let reaches (places : Nat) : Bool := interval.scale ≤ interval.value * Nat.pow 10 places
    match (List.range 400).find? reaches with
    | some places => -(places : Int)
    | none => 0

/-- Of the two neighbours on one decimal grid, the one in the interval; of two, the nearer. -/
private def onGrid? (interval : Interval) (exponent : Int) : Option Nat :=
  let lower := unitsBelow interval exponent
  match holds interval lower exponent, holds interval (lower + 1) exponent with
  | true, false => some lower
  | false, true => some (lower + 1)
  | false, false => none
  | true, true =>
    match compareWith interval (2 * lower + 1) exponent (2 * interval.value) with
    | .gt => some lower
    | .lt => some (lower + 1)
    | .eq => some (if lower % 2 = 0 then lower else lower + 1)

/-- The fewest digits that read back, and the power of ten of the last of them. -/
def digits (interval : Interval) : Nat × Int :=
  let leading := leadingPower interval
  let found := (List.range 17).findSome? fun (places : Nat) =>
    (onGrid? interval (leading - places)).map fun units => (units, leading - (places : Int))
  found.getD (unitsBelow interval (leading - 16), leading - 16)

/-- Digits with a point: positional for first digits from 10⁻⁵ to 10¹⁵, with an exponent beyond
them; a whole number keeps one zero behind the point. -/
def spell (units : Nat) (exponent : Int) : List Char :=
  let all := Nat.toDigits 10 units
  let leading := exponent + all.length - 1
  let shown := (all.reverse.dropWhile (· == '0')).reverse
  if 0 ≤ leading ∧ leading < 16 then
    let places := leading.toNat + 1
    let whole := shown.take places
    let fraction := shown.drop places
    whole ++ List.replicate (places - whole.length) '0' ++
      '.' :: (if fraction.isEmpty then ['0'] else fraction)
  else if -5 ≤ leading ∧ leading < 0 then
    "0.".toList ++ List.replicate ((-leading).toNat - 1) '0' ++ shown
  else
    let mantissa := shown.take 1 ++ (if shown.length ≤ 1 then [] else '.' :: shown.drop 1)
    mantissa ++ ['e', if leading < 0 then '-' else '+'] ++ Nat.toDigits 10 leading.natAbs

/-- The text of the finite number with these bits. -/
def ofBits (bits : UInt64) : String :=
  let magnitude := bits.toNat % signBit
  let sign := if signBit ≤ bits.toNat then "-" else ""
  if magnitude = 0 then sign ++ "0.0"
  else
    let (units, exponent) := digits (Interval.ofBits magnitude)
    sign ++ String.ofList (spell units exponent)

end ClusterPool.Text.Shortest
