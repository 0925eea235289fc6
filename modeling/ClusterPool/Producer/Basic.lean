import ClusterPool.Batch
import ClusterPool.Cluster
import ClusterPool.Producer.Phase

/-! Producers: one connection to one cluster each, with a record of what was asked of them and of
what they took. -/
namespace ClusterPool

theorem Producer.none_counted : 0 = ([] : List Batch).length := rfl

/-- A producer for one cluster. -/
structure Producer where
  /-- The pool it was built for. -/
  pool : String
  cluster : Cluster
  phase : Phase := .created
  /-- It refuses to start. -/
  refusesStart : Bool := false
  /-- Milliseconds until a start takes effect. -/
  startDelay : Nat := 0
  failsSends : Bool := false
  failsStop : Bool := false
  /-- How often it was asked to start. The count is kept in 32 bits, and then begins anew. -/
  starts : UInt32 := 0
  /-- How often it was asked to stop, in 32 bits too. -/
  stops : UInt32 := 0
  /-- The batches it took, oldest first. -/
  sent : List Batch := []
  /-- How many batches it took. -/
  sentCount : Nat := 0
  counted : sentCount = sent.length := by exact Producer.none_counted
  topics : NameSet := .empty
  deriving DecidableEq

instance : Inhabited Producer := ⟨{ pool := default, cluster := default }⟩

namespace Producer

/-- The count of starts as a number. -/
def startCalls (producer : Producer) : Nat := producer.starts.toNat

/-- The count of stops as a number. -/
def stopCalls (producer : Producer) : Nat := producer.stops.toNat

/-- A start is asked for. -/
def beginStart (producer : Producer) : Producer :=
  { producer with starts := producer.starts + 1 }

/-- The start takes effect after its delay. -/
def finishStart (producer : Producer) : Except Fault Unit × Producer :=
  if producer.refusesStart then
    (.error (.startFailed producer.cluster.name ("connection refused by " ++ producer.cluster.url)),
      producer)
  else match producer.phase.start producer.cluster.name with
    | .ok phase => (.ok (), { producer with phase })
    | .error fault => (.error fault, producer)

/-- A stop always ends the producer, also one that reports a failure. -/
def stop (producer : Producer) : Except Fault Unit × Producer :=
  let (running, phase) := producer.phase.beginStop
  let phase := if running then phase.finishStop else phase
  let stopped := { producer with phase, stops := producer.stops + 1 }
  if producer.failsStop then
    (.error (.stopFailed producer.cluster.name "close timed out"), stopped)
  else (.ok (), stopped)

/-- Adds topics to those that are published. -/
def publish (topics : NameSet) (producer : Producer) : Except Fault Unit × Producer :=
  match producer.phase.ensureStarted producer.cluster.name with
  | .ok _ => (.ok (), { producer with topics := producer.topics.union topics })
  | .error fault => (.error fault, producer)

/-- Keeps a batch and counts it. -/
def take (batch : Batch) (producer : Producer) : Producer :=
  { producer with
    sent := producer.sent ++ [batch]
    sentCount := producer.sentCount + 1
    counted := by rw [producer.counted, List.length_append, List.length_singleton] }

def send (batch : Batch) (producer : Producer) : Except Fault Unit × Producer :=
  match producer.phase.ensureStarted producer.cluster.name with
  | .error fault => (.error fault, producer)
  | .ok _ =>
    if producer.failsSends then
      (.error (.sendFailed producer.cluster.name "injected send failure"), producer)
    else (.ok (), producer.take batch)

/-- What can be asked of a producer directly. -/
inductive Call
  | start
  | stop
  | publish (topics : NameSet)
  | send (batch : Batch)
  | failSends (on : Bool)
  | failStop (on : Bool)
  | sent
  | cluster
  deriving Inhabited

/-- What a call brings back. -/
inductive Reply
  | done (result : Except Fault Unit)
  | batches (batches : List Batch)
  | cluster (cluster : Cluster)
  | nothing
  deriving Inhabited

/-- One call, with the delay of a start left out. -/
def answer (call : Call) (producer : Producer) : Reply × Producer :=
  match call with
  | .start => producer.beginStart.finishStart.map .done id
  | .stop => producer.stop.map .done id
  | .publish topics => (producer.publish topics).map .done id
  | .send batch => (producer.send batch).map .done id
  | .failSends on => (.nothing, { producer with failsSends := on })
  | .failStop on => (.nothing, { producer with failsStop := on })
  | .sent => (.batches producer.sent, producer)
  | .cluster => (.cluster producer.cluster, producer)

end Producer
end ClusterPool
