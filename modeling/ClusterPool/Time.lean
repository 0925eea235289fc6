/-! Lengths of time, kept as whole seconds and the nanoseconds below one second, with the roundings
that stamps in milliseconds need, and the clock that stamps are read from. It either moves when it is
told to, or follows the virtual time that a zone spends waiting. -/
namespace ClusterPool

/-- A length of time. The nanoseconds count only the part below one second. -/
structure Duration where
  seconds : UInt64
  nanos : Fin 1000000000
  deriving DecidableEq, Inhabited

namespace Duration

def zero : Duration := ⟨0, 0⟩

def isZero (span : Duration) : Bool := span = zero

/-- A whole number of milliseconds as a length of time. -/
def ofMillis (ms : UInt64) : Duration where
  seconds := ms / 1000
  nanos := ⟨ms.toNat % 1000 * 1000000, by omega⟩

def ofSeconds (seconds : UInt64) : Duration := ⟨seconds, 0⟩

def toNanos (span : Duration) : Nat := span.seconds.toNat * 1000000000 + span.nanos.val

/-- Whole milliseconds; a fraction of one is dropped. -/
def toMillis (span : Duration) : Nat := span.seconds.toNat * 1000 + span.nanos.val / 1000000

/-- Whole milliseconds in the width of a stamp, at most the greatest stamp. -/
def clampedMillis (span : Duration) : Int64 := Int64.ofInt (min span.toMillis Int64.maxValue.toInt)

/-- Digits of `part` in `places` places, without the zeros at the end. -/
private def fractionDigits (part places : Nat) : List Char :=
  let digits := Nat.toDigits 10 part
  let padded := List.replicate (places - digits.length) '0' ++ digits
  (padded.reverse.dropWhile (· == '0')).reverse

private def spell (whole part places : Nat) (unit : String) : String :=
  let fraction := fractionDigits part places
  let tail := if fraction.isEmpty then "" else "." ++ String.ofList fraction
  toString whole ++ tail ++ unit

/-- The length in the largest of s, ms, µs and ns in which it has a whole part. -/
def describe (span : Duration) : String :=
  let nanos := span.nanos.val
  if span.seconds ≠ 0 then spell span.seconds.toNat nanos 9 "s"
  else if 1000000 ≤ nanos then spell (nanos / 1000000) (nanos % 1000000) 6 "ms"
  else if 1000 ≤ nanos then spell (nanos / 1000) (nanos % 1000) 3 "µs"
  else spell nanos 0 0 "ns"

end Duration

/-- Milliseconds since a fixed day, in the width of the stamps that slots carry. -/
abbrev Stamp := Int64

/-- How long before `now` the stamp `since` lies, held inside the width of a stamp. -/
def Stamp.age (now since : Stamp) : Int64 :=
  Int64.ofInt
    (max Int64.minValue.toInt (min (now.toInt - since.toInt) Int64.maxValue.toInt))

/-- A clock with a set reading. `elapsed` counts the milliseconds waited so far; a clock that
follows them adds them to its first reading, which nobody can change. A broken clock cannot be
read. Intervals are timed by another clock, that of the platform, which nobody can set. -/
structure Clock where
  reading : Stamp := 0
  elapsed : Nat := 0
  follows : Bool := false
  broken : Bool := false
  /-- Nanoseconds that the clock of the platform showed when virtual time began. -/
  uptime : Nat := 1000000000
  deriving DecidableEq, Inhabited

namespace Clock

def now (clock : Clock) : Stamp :=
  if clock.follows then clock.reading + Int64.ofNat clock.elapsed else clock.reading

/-- Sets the reading of a clock that does not follow the waiting. -/
def set (clock : Clock) (reading : Stamp) : Clock :=
  if clock.follows then clock else { clock with reading }

/-- Moves the reading by whole milliseconds, past the greatest stamp on to the least one. -/
def advance (clock : Clock) (span : Duration) : Clock :=
  clock.set (clock.reading + span.clampedMillis)

/-- Milliseconds that a rest takes when it is asked to take so many: thirty years at most. -/
def restLength (ms : Nat) : Nat := min ms (30 * 365 * 86400000)

/-- Lets virtual time reach `moment`; it never runs back. -/
def waitUntil (clock : Clock) (moment : Nat) : Clock :=
  { clock with elapsed := max clock.elapsed moment }

end Clock
end ClusterPool
