import ClusterPool.Zone.Producers

/-! The end of producers: those whose grace period is over are reclaimed, and the closing of a
pool stops all that it still holds. -/
namespace ClusterPool.Zone

/-- Takes what has served its grace period out of retirement. -/
def takeDue (now : Stamp) (zone : Zone) : Holdings × Zone :=
  let (due, retiring) := zone.retiring.takeDue now zone.settings.graceMillis
  (due, { zone with retiring })

/-- Stops one reclaimed producer. -/
def reclaimOne (entry : String × Slot) : Program Zone Unit := do
  let stop ← stopProducer entry.1 entry.2.producer .expired
  .modify fun zone => (zone.reportStop stop).count .producersReclaimed

/-- Stops what has retired long enough, and answers its clusters. -/
def reclaim : Program Zone (List String) := do
  let due ← bookGate.inside do
    if (← .get).retiring.isEmpty then return .empty
    let now ← readClock
    let due ← .perform (takeDue now)
    Program.each reclaimOne due.entries
    return due
  if due.isEmpty then return []
  .modify (report (.reclaimed due.names))
  return due.names

/-- Reports a stop that was not reported yet. -/
def settle (stop : Option StopReport) (zone : Zone) : Zone :=
  match stop with
  | some stop => zone.reportStop stop
  | none => zone

/-- Stops producers in turn. The last stop of all is left to be reported. -/
def stopAll (role : Role) (last : Option StopReport) :
    List (String × Slot) → Program Zone (Option StopReport)
  | [] => return last
  | (cluster, slot) :: rest => do
    .modify (settle last)
    let stop ← stopProducer cluster slot.producer role
    stopAll role (some stop) rest

/-- Takes the retiring producers out of their table. -/
def takeRetiring (zone : Zone) : List (String × Slot) × Zone :=
  (zone.retiring.entries, { zone with retiring := .empty })

/-- Takes the producer of one cluster out of the active table, if it has one. -/
def takeActive (cluster : String) (zone : Zone) : List (String × Slot) × Zone :=
  match zone.active.take? cluster with
  | some (slot, active) => ([(cluster, slot)], { zone with active })
  | none => ([], zone)

/-- Stops the active producers of these clusters, each out of the table when its stop begins. -/
def stopActive (last : Option StopReport) : List String → Program Zone (Option StopReport)
  | [] => return last
  | cluster :: rest => do
    let taken ← .perform (takeActive cluster)
    stopActive (← stopAll .active last taken) rest

/-- The first part of a closing: behind the bookkeeping gate, which stays shut, everything is
stopped. -/
def beginClose : Program Zone (Option StopReport) := do
  bookGate.enter
  let last ← stopAll .retiring none (← .perform takeRetiring)
  stopActive last (← .get).active.names

/-- The rest of a closing: the last stop is reported, the gate opens, and the routes and topics
are forgotten. -/
def finishClose (last : Option StopReport) : Program Zone Unit := do
  .modify fun zone => bookGate.leave (zone.settle last)
  .modify fun zone => { zone with rotation := zone.rotation.clear }
  .modify fun zone => { zone with topics := .empty }
  .modify (report .poolClosed)

/-- Stops everything and forgets everything. -/
def close : Program Zone Unit := do finishClose (← beginClose)

/-- Closes up to the moment before the last stop is reported. Answers whether there is such a
moment; without one the closing is complete. -/
def holdClose : Program Zone Bool := do
  match ← beginClose with
  | none => finishClose none; return false
  | some stop =>
    .modify fun zone => { zone with heldClose := some stop }
    return true

/-- Lets a held closing come to its end. -/
def releaseClose : Program Zone Bool := do
  match (← .get).heldClose with
  | none => return false
  | some stop =>
    .modify fun zone => { zone with heldClose := none }
    finishClose (some stop)
    return true

end ClusterPool.Zone
