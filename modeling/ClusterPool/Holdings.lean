import ClusterPool.Producer.Fleet
import ClusterPool.Text.Quoted
import ClusterPool.Time

/-! What a pool holds: for each cluster at most one producer, with the time since which it is
held. The active clusters and the retiring ones are held in two tables of this kind. -/
namespace ClusterPool

/-- A producer, and since when it stands in its table. -/
structure Slot where
  producer : ProducerId
  since : Stamp
  deriving DecidableEq, Inhabited

/-- The same producer, held since another time. -/
def Slot.restamp (slot : Slot) (since : Stamp) : Slot := { slot with since }

/-- A producer for each of some clusters. -/
abbrev Holdings := NameTable Slot

namespace Holdings

/-- A slot has served its grace period. -/
def isDue (now : Stamp) (grace : Int64) (slot : Slot) : Bool := grace ≤ Stamp.age now slot.since

/-- The entries that have served their grace period, and what is left without them. -/
def takeDue (held : Holdings) (now : Stamp) (grace : Int64) : Holdings × Holdings :=
  (held.filter fun _ slot => isDue now grace slot,
    held.filter fun _ slot => !isDue now grace slot)

/-- The slot of a cluster, and what is left without it. -/
def take? (held : Holdings) (cluster : String) : Option (Slot × Holdings) :=
  (held.find? cluster).map fun slot => (slot, held.erase cluster)

/-- The clusters with the times since which they are held. -/
def stamps (held : Holdings) : List (String × Stamp) :=
  held.entries.map fun entry => (entry.1, entry.2.since)

/-- A slot as messages show it. -/
def describeSlot (fleet : Fleet) (slot : Slot) : String :=
  let producer := fleet.find? slot.producer
  let cluster := (producer.map fun found => found.cluster.name).getD ""
  let phase := (producer.map fun found => found.phase).getD .stopped
  "ProducerSlot \x7b cluster: " ++ Text.quote cluster ++ ", state: " ++ phase.name ++
    ", since_ms: " ++ toString slot.since.toInt ++ " \x7d"

/-- Retiring entries as messages show them. -/
def describe (fleet : Fleet) (held : Holdings) : String :=
  let entry (item : String × Slot) := Text.quote item.1 ++ ": " ++ describeSlot fleet item.2
  "RetirementLedger \x7b entries: \x7b" ++ ", ".intercalate (held.entries.map entry) ++ "\x7d \x7d"

end Holdings
end ClusterPool
