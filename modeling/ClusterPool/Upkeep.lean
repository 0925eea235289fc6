import ClusterPool.Time

/-! The background task that reloads and reclaims at fixed intervals. It does one thing at a time,
and a turn that comes late moves those after it. The task is described here by what it waits for;
what it does in its turns is left to the zone. -/
namespace ClusterPool

/-- What the task may do next. -/
inductive Turn
  | stop
  | reload
  | reclaim
  deriving DecidableEq, Inhabited

/-- How far the task has come. -/
inductive UpkeepPhase
  /-- It has not been given its first turn. -/
  | unborn
  | idle
  | busy
  | ended
  /-- It was given up during a turn. -/
  | lost
  deriving DecidableEq, Inhabited

/-- One background task. The times at which its next turns are due are nanoseconds of virtual
time. -/
structure Upkeep where
  reloadEvery : Duration
  reclaimEvery : Duration
  /-- Nanoseconds that the clock of the platform showed when virtual time began. -/
  uptime : Nat := 1000000000
  phase : UpkeepPhase := .unborn
  reloadDue : Nat := 0
  reclaimDue : Nat := 0
  /-- It was asked to end, or its handle is gone. -/
  dismissed : Bool := false
  deriving DecidableEq, Inhabited

namespace Upkeep

/-- Both intervals take some time. -/
def isUsable (upkeep : Upkeep) : Bool := !upkeep.reloadEvery.isZero && !upkeep.reclaimEvery.isZero

/-- A time this far after a reading in nanoseconds can still be told by the clock of the platform,
which counts its seconds in 64 bits with a sign. -/
def canTell (reading : Nat) (ahead : Duration) : Bool :=
  (reading + ahead.toNanos) / 1000000000 ≤ Int64.maxValue.toInt

/-- The ends of both intervals can be told from a time in milliseconds on. -/
def tells (upkeep : Upkeep) (now : Nat) : Bool :=
  let reading := upkeep.uptime + now * 1000000
  canTell reading upkeep.reloadEvery && canTell reading upkeep.reclaimEvery

/-- The first turn, after which both intervals run. The task is lost if it cannot tell when they
end. -/
def begin (upkeep : Upkeep) (now : Nat) : Upkeep :=
  if upkeep.tells now then
    { upkeep with
      phase := .idle
      reloadDue := now * 1000000 + upkeep.reloadEvery.toNanos
      reclaimDue := now * 1000000 + upkeep.reclaimEvery.toNanos }
  else { upkeep with phase := .lost }

/-- What an idle task can do at a time in milliseconds. With several answers any of them may
come first. -/
def turns (upkeep : Upkeep) (now : Nat) : List Turn :=
  (if upkeep.dismissed then [.stop] else []) ++
    (if upkeep.reloadDue ≤ now * 1000000 then [.reload] else []) ++
    (if upkeep.reclaimDue ≤ now * 1000000 then [.reclaim] else [])

/-- When the turn after one that was due and is taken now is due. A turn more than five
milliseconds late starts its interval anew. The time is exact as long as the intervals can be told
from now on. -/
def nextDue (due now : Nat) (every : Duration) : Nat :=
  if due + 5000000 < now * 1000000 then now * 1000000 + every.toNanos else due + every.toNanos

/-- Takes a turn. -/
def take (upkeep : Upkeep) (now : Nat) : Turn → Upkeep
  | .stop => { upkeep with phase := .ended }
  | .reload =>
    { upkeep with
      phase := .busy
      reloadDue := nextDue upkeep.reloadDue now upkeep.reloadEvery }
  | .reclaim =>
    { upkeep with
      phase := .busy
      reclaimDue := nextDue upkeep.reclaimDue now upkeep.reclaimEvery }

def isOver (upkeep : Upkeep) : Bool := upkeep.phase = .ended || upkeep.phase = .lost

/-- The first whole millisecond at which an idle task has something to do. -/
def wakesAt (upkeep : Upkeep) : Nat := (min upkeep.reloadDue upkeep.reclaimDue + 999999) / 1000000

end Upkeep
end ClusterPool
