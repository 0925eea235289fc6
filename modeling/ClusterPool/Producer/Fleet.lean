import ClusterPool.Producer.Basic

/-! Every producer that was ever built, numbered in the order of building, and the failures and
delays that are laid on those built or stopped from now on. -/
namespace ClusterPool

/-- The number of a producer in its fleet. -/
abbrev ProducerId := Nat

structure Fleet where
  /-- All producers; the number of one is its place. -/
  producers : List Producer := []
  /-- Who asked for a producer of which cluster, refused requests included. -/
  requests : List String := []
  refusingStart : NameSet := .empty
  refusingBuild : NameSet := .empty
  /-- Milliseconds that producers built from now on take to start. -/
  startDelay : Nat := 0
  /-- Clusters to which a pool cannot publish. -/
  refusingPublish : NameSet := .empty
  /-- Milliseconds that a stop ordered by a pool takes after the producer has stopped. -/
  stopDelays : NameTable Nat := .empty
  deriving DecidableEq, Inhabited

namespace Fleet

def find? (fleet : Fleet) (id : ProducerId) : Option Producer := fleet.producers[id]?

/-- Builds a producer that is not started, or refuses to. -/
def build (fleet : Fleet) (pool : String) (cluster : Cluster) : Except Fault ProducerId × Fleet :=
  if fleet.refusingBuild.contains cluster.name then
    (.error (.startFailed cluster.name "invalid connection parameters"), fleet)
  else
    let producer : Producer := {
      pool, cluster, startDelay := fleet.startDelay
      refusesStart := fleet.refusingStart.contains cluster.name }
    (.ok fleet.producers.length, { fleet with producers := fleet.producers ++ [producer] })

/-- Lets one producer do something. -/
def update (fleet : Fleet) (id : ProducerId) (action : Producer → Producer) : Fleet :=
  { fleet with producers := fleet.producers.modify id action }

/-- The producers of a cluster, oldest first. -/
def ofCluster (fleet : Fleet) (cluster : String) : List Producer :=
  fleet.producers.filter fun producer => producer.cluster.name == cluster

/-- The numbers of the producers of a cluster, oldest first. -/
def idsOfCluster (fleet : Fleet) (cluster : String) : List ProducerId :=
  (List.range fleet.producers.length).filter fun id =>
    (fleet.find? id).any fun producer => producer.cluster.name == cluster

def refuseStart (fleet : Fleet) (cluster : String) : Fleet :=
  { fleet with refusingStart := fleet.refusingStart.add cluster }

def refuseBuild (fleet : Fleet) (cluster : String) : Fleet :=
  { fleet with refusingBuild := fleet.refusingBuild.add cluster }

/-- Producers of the cluster can be built and started again. -/
def clearFailures (fleet : Fleet) (cluster : String) : Fleet :=
  { fleet with
    refusingStart := fleet.refusingStart.erase cluster
    refusingBuild := fleet.refusingBuild.erase cluster }

def refusePublish (fleet : Fleet) (cluster : String) (on : Bool) : Fleet :=
  { fleet with refusingPublish :=
      if on then fleet.refusingPublish.add cluster else fleet.refusingPublish.erase cluster }

def delayStop (fleet : Fleet) (cluster : String) (ms : Nat) : Fleet :=
  { fleet with stopDelays := fleet.stopDelays.insert cluster ms }

/-- Publishes topics on a producer on behalf of its pool. -/
def publish (fleet : Fleet) (id : ProducerId) (topics : NameSet) : Except Fault Unit × Fleet :=
  match fleet.find? id with
  | none => (.ok (), fleet)
  | some producer =>
    if fleet.refusingPublish.contains producer.cluster.name then
      (.error (.sendFailed producer.cluster.name "injected publish failure"), fleet)
    else
      let (result, after) := producer.publish topics
      (result, fleet.update id fun _ => after)

/-- A batch is sent through a producer. -/
def send (fleet : Fleet) (id : ProducerId) (batch : Batch) : Except Fault Unit × Fleet :=
  match fleet.find? id with
  | none => (.ok (), fleet)
  | some producer =>
    let (result, after) := producer.send batch
    (result, fleet.update id fun _ => after)

/-- A producer stops; the delay of the stop comes after it. -/
def stop (fleet : Fleet) (id : ProducerId) : Except Fault Unit × Fleet :=
  match fleet.find? id with
  | none => (.ok (), fleet)
  | some producer =>
    let (result, after) := producer.stop
    (result, fleet.update id fun _ => after)

/-- The start of a producer takes effect. -/
def finishStart (fleet : Fleet) (id : ProducerId) : Except Fault Unit × Fleet :=
  match fleet.find? id with
  | none => (.ok (), fleet)
  | some producer =>
    let (result, after) := producer.finishStart
    (result, fleet.update id fun _ => after)

end Fleet
end ClusterPool
