import ClusterPool.Zone.Basic

/-! Sending a batch to one of the active clusters. A dispatch takes a snapshot of the routes and
tries the names that its tickets pick, until one of them has a producer. It never waits. -/
namespace ClusterPool.Zone

/-- How many snapshots one dispatch may go through. -/
def snapshotAttempts : Nat := 3

/-- Looks up the producer of a route. A route without one is a miss, and is reported. -/
def lookUp (cluster : String) (zone : Zone) : Option ProducerId × Zone :=
  match zone.active.find? cluster with
  | some slot => (some slot.producer, zone)
  | none => (none, (zone.count .routingMisses).report (.routingMissed cluster))

/-- Hands a batch to a producer and counts how it went. -/
def deliver (batch : Batch) (id : ProducerId) (zone : Zone) : Except Fault Unit × Zone :=
  let (result, zone) := zone.withFleet fun fleet => fleet.send id batch
  match result with
  | .ok _ => (.ok (), zone.count .sendsSucceeded)
  | .error fault => (.error fault, zone.count .sendsFailed)

/-- No route led to a producer. -/
def unroutable (zone : Zone) : Fault × Zone := (.noRoute zone.name, zone.count .sendsUnroutable)

/-- So many attempts on a snapshot. No answer means that all of them missed. -/
def tryRoutes (batch : Batch) (snapshot : Snapshot) :
    Nat → Program Zone (Option (Except Fault String))
  | 0 => return none
  | attempts + 1 => do
    let cluster ← .perform (withRotation fun rotation => rotation.pick snapshot)
    match ← .perform (lookUp cluster) with
    | none =>
      .marked
      tryRoutes batch snapshot attempts
    | some id =>
      let result ← .perform (deliver batch id)
      return some (result.map fun _ => cluster)

/-- Tries a snapshot for one full cycle, and then the next one if the routes were replaced
meanwhile. -/
def dispatchFrom (batch : Batch) : Nat → Snapshot → Program Zone (Except Fault String)
  | 0, _ => do return .error (← .perform unroutable)
  | attempts + 1, snapshot => do
    match ← tryRoutes batch snapshot snapshot.names.length with
    | some result => return result
    | none =>
      let latest := (← .get).rotation.current
      if latest.edition = snapshot.edition then return .error (← .perform unroutable)
      else dispatchFrom batch attempts latest

/-- Sends a batch, and answers the cluster that took it. -/
def dispatch (batch : Batch) : Program Zone (Except Fault String) := do
  dispatchFrom batch snapshotAttempts (← .get).rotation.current

end ClusterPool.Zone
