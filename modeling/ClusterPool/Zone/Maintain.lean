import ClusterPool.Zone.Reconcile
import ClusterPool.Zone.Retire

/-! The background tasks of a zone: how they are begun, asked to end and waited for, and what one
of them does when it is its turn. -/
namespace ClusterPool.Zone

def updateUpkeep (index : Nat) (change : Upkeep → Upkeep) (zone : Zone) : Zone :=
  { zone with upkeeps := zone.upkeeps.modify index change }

/-- Gives the handle of a background task away, which asks the task to end. -/
def dropHandle (zone : Zone) : Zone :=
  match zone.handle with
  | none => zone
  | some index =>
    { zone.updateUpkeep index fun upkeep => { upkeep with dismissed := true } with handle := none }

/-- A background task with the intervals of the settings. -/
def newUpkeep (zone : Zone) : Upkeep where
  reloadEvery := zone.settings.reloadEvery
  reclaimEvery := zone.settings.reclaimEvery
  uptime := zone.clock.uptime

/-- Begins a background task, and answers its number. -/
def addUpkeep (zone : Zone) : Except Fault Nat × Zone :=
  if zone.newUpkeep.isUsable then
    (.ok zone.upkeeps.length, { zone with upkeeps := zone.upkeeps ++ [zone.newUpkeep] })
  else
    (.error (.misconfigured "reload_interval and reclaim_interval must be non-zero"), zone)

/-- Begins a background task and takes its handle, in place of an earlier one. -/
def maintain : Program Zone (Except Fault Unit) := do
  match ← .perform addUpkeep with
  | .error fault => return .error fault
  | .ok index =>
    .modify fun zone => { zone.dropHandle with handle := some index }
    return .ok ()

/-- A background task is over, or there is none of this number. -/
def isOver (index : Nat) (zone : Zone) : Bool :=
  (zone.upkeeps[index]?.map Upkeep.isOver).getD true

/-- Asks the background task to end and waits until it has. Without a task there is no answer,
and a task that was lost is a fault. -/
def shutdown : Program Zone (Option (Except Fault Unit)) := do
  match (← .get).handle with
  | none => return none
  | some index =>
    .modify fun zone =>
      (if zone.isOver index then zone.report .maintenanceGone else zone).dropHandle
    .waitFor (isOver index)
    match (← .get).upkeeps[index]? with
    | some { phase := .lost, .. } => return some (.error .taskLost)
    | _ => return some (.ok ())

/-- The first turn of a task. -/
def beginUpkeep (index : Nat) (zone : Zone) : Zone :=
  match zone.upkeeps[index]? with
  | none => zone
  | some upkeep =>
    let begun := upkeep.begin zone.now
    let zone := zone.updateUpkeep index fun _ => begun
    if begun.isOver then zone
    else zone.report (.maintenanceStarted upkeep.reloadEvery.toMillis.toUInt64
      upkeep.reclaimEvery.toMillis.toUInt64)

/-- What a task does in one of its turns. -/
def turnWork : Turn → Program Zone Unit
  | .stop => return ()
  | .reload => do
    .modify (report .reloadScheduled)
    let _ ← reload
  | .reclaim => do let _ ← reclaim

/-- A task takes a turn. Its last turn leaves nothing to do. -/
def takeTurn (index : Nat) (turn : Turn) (zone : Zone) : Option (Program Zone Unit) × Zone :=
  let taken := zone.updateUpkeep index fun upkeep => upkeep.take zone.now turn
  match turn with
  | .stop => (none, taken.report .maintenanceStopped)
  | turn => (some (turnWork turn), taken)

/-- A turn is over, or was given up. -/
def endTurn (index : Nat) (completed : Bool) (zone : Zone) : Zone :=
  zone.updateUpkeep index fun upkeep =>
    { upkeep with phase := if completed then .idle else .lost }

end ClusterPool.Zone
