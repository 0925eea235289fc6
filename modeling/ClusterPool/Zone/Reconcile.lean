import ClusterPool.Zone.Producers

/-! Bringing a pool in line with its catalog. Clusters that stay are kept, those that come back
are rescued from retirement, new ones get a producer, and the others retire. Topics are only ever
added. The tables change under the bookkeeping gate, and producers are built and started outside
of it. -/
namespace ClusterPool.Zone

/-- What the catalog announces. A slow catalog gives the others a turn. -/
def fetch (part : Inventory → α) : Program Zone (Except Fault α) := do
  if (← .get).catalog.isSlow then .stepAside
  return ((← .get).catalog.fetch).map part

/-- The clusters that are selected, sorted by where their producers come from. -/
structure Division where
  unchanged : List String := []
  rescued : List String := []
  missing : List Cluster := []

/-- Sorts one selected cluster in. A cluster that retires is rescued with its producer. -/
def classify (now : Stamp) (division : Division) (cluster : Cluster) (zone : Zone) :
    Division × Zone :=
  if zone.active.contains cluster.name then
    ({ division with unchanged := division.unchanged ++ [cluster.name] }, zone)
  else match zone.retiring.take? cluster.name with
    | some (slot, retiring) =>
      ({ division with rescued := division.rescued ++ [cluster.name] },
        { zone with
          active := zone.active.insert cluster.name (slot.restamp now), retiring
          tally := zone.tally.count .producersRescued })
    | none => ({ division with missing := division.missing ++ [cluster] }, zone)

/-- Sorts all selected clusters in, at one moment. -/
def divide (now : Stamp) (order : List Cluster) (zone : Zone) : Division × Zone :=
  order.foldl (fun state cluster => classify now state.1 cluster state.2) ({}, zone)

/-- The names of the clusters that got a producer, of those that did not, and of those that had
got another one meanwhile. -/
structure Creation where
  created : List String := []
  failed : List String := []
  overtaken : List String := []

/-- A new producer becomes active, unless its cluster has become so meanwhile. Answers whether it
did. -/
def activate (cluster : Cluster) (id : ProducerId) (now : Stamp) (zone : Zone) : Bool × Zone :=
  if zone.active.contains cluster.name then (false, zone)
  else (true, { zone with
    active := zone.active.insert cluster.name ⟨id, now⟩
    tally := zone.tally.count .producersCreated })

/-- Builds the missing producers one after the other. A producer whose cluster is served by now is
stopped again. -/
def createAll (topics : NameSet) (creation : Creation) :
    List Cluster → Program Zone Creation
  | [] => return creation
  | cluster :: rest => do
    match ← createProducer topics cluster with
    | .ok id =>
      let now ← readClock
      if ← .perform (activate cluster id now) then
        createAll topics { creation with created := creation.created ++ [cluster.name] } rest
      else
        .modify (report (.creationOvertaken cluster.name))
        let stop ← stopProducer cluster.name id .duplicate
        .modify (reportStop stop)
        createAll topics { creation with overtaken := creation.overtaken ++ [cluster.name] } rest
    | .error fault =>
      .modify fun zone => (zone.count .reloadFailures).report (.creationFailed cluster.name fault)
      createAll topics { creation with failed := creation.failed ++ [cluster.name] } rest

/-- The selected clusters that are active. -/
def activeAmong (order : List Cluster) (zone : Zone) : List String :=
  (order.map (·.name)).filter fun name => zone.active.contains name

/-- These clusters become the routes. Answers whether they differ from the routes before. -/
def publishRoutes (routes : List String) (zone : Zone) : Bool × Zone :=
  zone.withRotation fun rotation => rotation.publish routes

/-- Active clusters that are no routes retire, and are answered. -/
def retireOthers (routes : List String) (now : Stamp) (zone : Zone) : List String × Zone :=
  let stale := zone.active.filter fun name _ => !routes.contains name
  (stale.names, { zone with
    active := zone.active.filter fun name _ => routes.contains name
    retiring := stale.entries.foldl
      (fun retiring entry => retiring.insert entry.1 (entry.2.restamp now)) zone.retiring
    tally := stale.entries.foldl (fun tally _ => tally.count .producersRetired) zone.tally })

/-- Reports the outcome. The first change after which the backend is not yet known to be ready
makes it so. -/
def conclude (summary : Summary) (zone : Zone) : Zone :=
  if summary.changed then
    if zone.catalog.ready then zone.report (.changed summary false)
    else
      let zone := zone.report (.changed summary true)
      { zone with catalog := zone.catalog.markReady }
  else if summary.failed.isEmpty then zone.report .nothingChanged
  else zone.report (.changeFailed summary)

/-- Brings the clusters in line with what was selected. The routes are chosen at one moment and
published at a later one. -/
def adopt (order : List Cluster) : Program Zone Summary := do
  let division ← bookGate.inside do
    let now ← readClock
    .perform (divide now order)
  let topics := (← .get).topics
  let creation ← createAll topics {} division.missing
  let routes := (← .get).activeAmong order
  let routingChanged ← .perform (publishRoutes routes)
  let removed ← bookGate.inside do
    let now ← readClock
    .perform (retireOthers routes now)
  let summary : Summary := {
    pool := (← .get).name, routes, routingChanged, removed
    created := creation.created, failed := creation.failed
    rescued := division.rescued, unchanged := division.unchanged ++ creation.overtaken }
  .modify (conclude summary)
  return summary

/-- Reconciles the clusters, inside the reload gate. An empty selection changes nothing. -/
def reconcileClusters : Program Zone (Except Fault Summary) := do
  match ← fetch Inventory.clusters with
  | .error fault => return .error fault
  | .ok clusters =>
    let zone ← .get
    let selected := zone.selection.select clusters
    if selected.isEmpty then
      .modify (report .selectionEmpty)
      return .ok { pool := zone.name }
    else return .ok (← adopt (Cluster.firstOfEachName selected))

/-- Publishes the topics on one active producer; a failure is reported and passed over. -/
def publishTopics (zone : Zone) (entry : String × Slot) : Zone :=
  let (result, zone) := zone.withFleet fun fleet => fleet.publish entry.2.producer zone.topics
  match result with
  | .ok _ => zone
  | .error fault => (zone.count .reloadFailures).report (.publishFailed entry.1 fault)

/-- Adds announced topics to the known ones, and publishes all of them if the announcement is
neither empty nor what was known before. -/
def absorbTopics (current : NameSet) (zone : Zone) : Bool × Zone :=
  if current.isEmpty || zone.topics = current then (false, zone)
  else
    let zone := zone.report (.topicsChanged current zone.topics)
    let zone := { zone with topics := zone.topics.union current }
    (true, zone.active.entries.foldl publishTopics zone)

/-- Reconciles the topics, inside the reload gate. Answers whether they were published. -/
def reconcileTopics : Program Zone (Except Fault Bool) := do
  match ← fetch Inventory.topics with
  | .error fault => return .error fault
  | .ok current => return .ok (← .perform (absorbTopics current))

/-- Reconciles the clusters alone. -/
def reconcileClustersAlone : Program Zone (Except Fault Summary) :=
  reloadGate.inside reconcileClusters

/-- Reconciles the topics alone. -/
def reconcileTopicsAlone : Program Zone (Except Fault Bool) := reloadGate.inside reconcileTopics

/-- Counts and reports a part of a reload that failed. -/
def reloadFailed (event : Event) (zone : Zone) : Zone :=
  (zone.count .reloadFailures).report event

/-- Reconciles the clusters and then the topics; a failure of one leaves the other alone. -/
def reload : Program Zone (Option Summary) := reloadGate.inside do
  let outcome ← reconcileClusters
  match outcome with
  | .ok _ => pure ()
  | .error fault => .modify (reloadFailed (.clusterReloadFailed fault))
  match ← reconcileTopics with
  | .ok _ => pure ()
  | .error fault => .modify (reloadFailed (.topicReloadFailed fault))
  .modify (count .reloads)
  return outcome.toOption

/-- The first reload of a pool. -/
def start : Program Zone (Option Summary) := do
  .modify (report .poolStarting)
  reload

end ClusterPool.Zone
