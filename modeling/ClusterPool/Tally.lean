import ClusterPool.Document.Values

/-! What a pool has counted since it was built. -/
namespace ClusterPool
open Document

/-- The events that are counted. -/
inductive Counted
  | sendsSucceeded
  | sendsFailed
  | sendsUnroutable
  | routingMisses
  | reloads
  | reloadFailures
  | producersCreated
  | producersRescued
  | producersRetired
  | producersReclaimed
  | stopFailures
  deriving DecidableEq, Inhabited

namespace Counted

/-- All of them, in the order in which they are written. -/
def all : List Counted := [sendsSucceeded, sendsFailed, sendsUnroutable, routingMisses, reloads,
  reloadFailures, producersCreated, producersRescued, producersRetired, producersReclaimed,
  stopFailures]

def name : Counted → String
  | sendsSucceeded => "sends_succeeded"
  | sendsFailed => "sends_failed"
  | sendsUnroutable => "sends_unroutable"
  | routingMisses => "routing_misses"
  | reloads => "reloads"
  | reloadFailures => "reload_failures"
  | producersCreated => "producers_created"
  | producersRescued => "producers_rescued"
  | producersRetired => "producers_retired"
  | producersReclaimed => "producers_reclaimed"
  | stopFailures => "stop_failures"

end Counted

/-- How often each event has happened. -/
structure Tally where
  sendsSucceeded : UInt64 := 0
  sendsFailed : UInt64 := 0
  sendsUnroutable : UInt64 := 0
  routingMisses : UInt64 := 0
  reloads : UInt64 := 0
  reloadFailures : UInt64 := 0
  producersCreated : UInt64 := 0
  producersRescued : UInt64 := 0
  producersRetired : UInt64 := 0
  producersReclaimed : UInt64 := 0
  stopFailures : UInt64 := 0
  deriving DecidableEq, Inhabited

namespace Tally

def get (tally : Tally) : Counted → UInt64
  | .sendsSucceeded => tally.sendsSucceeded
  | .sendsFailed => tally.sendsFailed
  | .sendsUnroutable => tally.sendsUnroutable
  | .routingMisses => tally.routingMisses
  | .reloads => tally.reloads
  | .reloadFailures => tally.reloadFailures
  | .producersCreated => tally.producersCreated
  | .producersRescued => tally.producersRescued
  | .producersRetired => tally.producersRetired
  | .producersReclaimed => tally.producersReclaimed
  | .stopFailures => tally.stopFailures

def set (tally : Tally) (value : UInt64) : Counted → Tally
  | .sendsSucceeded => { tally with sendsSucceeded := value }
  | .sendsFailed => { tally with sendsFailed := value }
  | .sendsUnroutable => { tally with sendsUnroutable := value }
  | .routingMisses => { tally with routingMisses := value }
  | .reloads => { tally with reloads := value }
  | .reloadFailures => { tally with reloadFailures := value }
  | .producersCreated => { tally with producersCreated := value }
  | .producersRescued => { tally with producersRescued := value }
  | .producersRetired => { tally with producersRetired := value }
  | .producersReclaimed => { tally with producersReclaimed := value }
  | .stopFailures => { tally with stopFailures := value }

/-- Counts one event. -/
def count (tally : Tally) (event : Counted) : Tally := tally.set (tally.get event + 1) event

def layout : Layout Tally Tally where
  title := "struct PoolStats"
  blank := {}
  fields := Counted.all.map fun event =>
    .needed event.name Documented.read fun value tally => tally.set value event
  finish := .ok

instance : Documented Tally where
  read := layout.read
  write tally := writtenObject
    (Counted.all.map fun event => (event.name, Documented.write (tally.get event)))

end Tally
end ClusterPool
