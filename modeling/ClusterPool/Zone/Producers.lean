import ClusterPool.Zone.Basic

/-! What a pool does with single producers: building and starting them, publishing topics on them
and stopping them. -/
namespace ClusterPool.Zone

/-- Asks for a producer. Every request is kept, also one that is refused. -/
def request (cluster : Cluster) (zone : Zone) : Except Fault ProducerId × Zone :=
  let asked := { zone.fleet with
    requests := zone.fleet.requests ++ [zone.node.id ++ "/" ++ cluster.name] }
  let (result, fleet) := asked.build zone.name cluster
  (result, { zone with fleet })

/-- The start of a producer takes effect, and a producer that runs reports it. -/
def finishStart (id : ProducerId) (zone : Zone) : Except Fault Unit × Zone :=
  let (result, after) := zone.withFleet fun fleet => fleet.finishStart id
  match result, zone.fleet.find? id with
  | .ok _, some producer =>
    let note : Note := ⟨producer.pool, .producerStarted producer.cluster.name⟩
    (result, { after with journal := note :: after.journal })
  | _, _ => (result, after)

/-- Starts a producer, which may take time. -/
def startProducer (id : ProducerId) : Program Zone (Except Fault Unit) := do
  .modify fun zone => { zone with fleet := zone.fleet.update id Producer.beginStart }
  let zone ← .get
  rest (((zone.fleet.find? id).map fun producer => producer.startDelay).getD 0)
  .perform (finishStart id)

/-- The first publication on a producer that has just started. Its failure is reported and does
not harm the producer. -/
def publishFirst (topics : NameSet) (cluster : Cluster) (id : ProducerId) (zone : Zone) : Zone :=
  if topics.isEmpty then zone
  else
    let (result, zone) := zone.withFleet fun fleet => fleet.publish id topics
    match result with
    | .ok _ => zone
    | .error fault => (zone.count .reloadFailures).report (.firstPublishFailed cluster.name fault)

/-- A producer for a cluster, started and with the topics published on it. -/
def createProducer (topics : NameSet) (cluster : Cluster) :
    Program Zone (Except Fault ProducerId) := do
  match ← .perform (request cluster) with
  | .error fault => return .error fault
  | .ok id =>
    match ← startProducer id with
    | .error fault => return .error fault
    | .ok _ =>
      .modify fun zone => (zone.publishFirst topics cluster id).report
        (.producerCreated cluster.name cluster.url)
      return .ok id

/-- Reports how a stop ended. -/
def reportStop (stop : StopReport) (zone : Zone) : Zone :=
  match stop.result with
  | .ok _ => zone.report (.producerStopped stop.cluster stop.role)
  | .error fault => (zone.count .stopFailures).report (.stopFailed stop.cluster stop.role fault)

/-- Milliseconds that the stop of a producer takes. -/
def stopDelay (id : ProducerId) (zone : Zone) : Nat :=
  ((zone.fleet.find? id).bind fun producer =>
    zone.fleet.stopDelays.find? producer.cluster.name).getD 0

/-- Stops a producer, and does not yet report it. -/
def stopProducer (cluster : String) (id : ProducerId) (role : Role) : Program Zone StopReport := do
  let result ← .perform (withFleet fun fleet => fleet.stop id)
  let zone ← .get
  rest (zone.stopDelay id)
  return { cluster, role, result }

end ClusterPool.Zone
