import ClusterPool.Catalog
import ClusterPool.Holdings
import ClusterPool.Journal
import ClusterPool.Rotation
import ClusterPool.Selection
import ClusterPool.Settings
import ClusterPool.Tally
import ClusterPool.Program
import ClusterPool.Upkeep

/-! A zone: one pool of producers together with all that it depends on, which is its catalog, the
producers that were ever built, its clock and its background tasks. Everything that happens in a
zone is a change of this state. -/
namespace ClusterPool

/-- A producer that was stopped, and how its stop ended. -/
structure StopReport where
  cluster : String
  role : Role
  result : Except Fault Unit

structure Zone where
  /-- The name of the pool. -/
  name : String
  node : Node
  settings : Settings
  selection : Selection
  catalog : Catalog
  fleet : Fleet := {}
  clock : Clock
  rotation : Rotation := {}
  active : Holdings := .empty
  retiring : Holdings := .empty
  /-- Every topic that was ever announced. -/
  topics : NameSet := .empty
  tally : Tally := {}
  /-- What was reported and not yet collected, last first. -/
  journal : List Note := []
  /-- Admits one reconciliation at a time. -/
  reloading : Turnstile := {}
  /-- Admits one change of the active and the retiring table at a time. -/
  bookkeeping : Turnstile := {}
  /-- A closing that is held before its end, with the last stop not yet reported. -/
  heldClose : Option StopReport := none
  upkeeps : List Upkeep := []
  /-- The background task that the zone still has a handle of. -/
  handle : Option Nat := none
  /-- How many numbered batches were made. -/
  numbered : Nat := 0

instance : Inhabited Zone :=
  ⟨{ name := "", node := {}, settings := {}, selection := .all, catalog := default, clock := {} }⟩

namespace Zone

def count (event : Counted) (zone : Zone) : Zone := { zone with tally := zone.tally.count event }

def report (event : Event) (zone : Zone) : Zone :=
  { zone with journal := ⟨zone.name, event⟩ :: zone.journal }

/-- Virtual milliseconds since the zone began. -/
def now (zone : Zone) : Nat := zone.clock.elapsed

def passUntil (moment : Nat) (zone : Zone) : Zone :=
  { zone with clock := zone.clock.waitUntil moment }

/-- Asks the fleet for something. -/
def withFleet (action : Fleet → α × Fleet) (zone : Zone) : α × Zone :=
  let (answer, fleet) := action zone.fleet
  (answer, { zone with fleet })

def withRotation (action : Rotation → α × Rotation) (zone : Zone) : α × Zone :=
  let (answer, rotation) := action zone.rotation
  (answer, { zone with rotation })

def reloadGate : Gate Zone where
  get := reloading
  update change zone := { zone with reloading := change zone.reloading }

def bookGate : Gate Zone where
  get := bookkeeping
  update change zone := { zone with bookkeeping := change zone.bookkeeping }

/-- Rests for so many milliseconds, if there are any. -/
def rest (ms : Nat) : Program Zone Unit :=
  if ms = 0 then return ()
  else do .sleepUntil ((← .get).now + Clock.restLength ms)

/-- Reads the clock; whoever reads a broken one is given up. -/
def readClock : Program Zone Stamp := do
  let zone ← Program.get
  if zone.clock.broken then .crash else return zone.clock.now

/-- What a pool is built from. The catalog and the factory of producers may be left out, and then
nothing is built. -/
structure Plan where
  name : String := "default"
  node : Node := {}
  settings : Settings := {}
  selection : Selection := .all
  catalog : Option Catalog := none
  hasFactory : Bool := true
  clock : Clock := {}

/-- A zone with a pool that has not started. -/
def build (plan : Plan) : Except Fault Zone :=
  if (Text.trim plan.name.toList).isEmpty then
    .error (.misconfigured "pool name must not be empty")
  else match plan.catalog with
    | none => .error (.misconfigured "config_source is required")
    | some catalog =>
      if plan.hasFactory then
        .ok {
          name := plan.name, node := plan.node, settings := plan.settings
          selection := plan.selection, catalog, clock := plan.clock }
      else .error (.misconfigured "producer_factory is required")

/-- The pool as messages show it. -/
def describe (zone : Zone) : String :=
  "ZoneProducerPool \x7b name: " ++ Text.quote zone.name ++ ", config: " ++
    zone.settings.describe ++ ", active: " ++ toString zone.active.size ++ " \x7d"

end Zone
end ClusterPool
