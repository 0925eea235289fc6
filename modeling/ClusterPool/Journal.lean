import ClusterPool.Document.Values
import ClusterPool.Fault
import ClusterPool.Text.Quoted

/-! What a pool tells of its work: the outcome of one reconciliation of the clusters, and the notes
that it reports while it works. A note says what happened; the level, the message and the fields under
which it is shown follow from it. -/
namespace ClusterPool

structure Summary where
  pool : String := ""
  /-- The names that are dispatched to from now on. -/
  routes : List String := []
  created : List String := []
  rescued : List String := []
  unchanged : List String := []
  removed : List String := []
  /-- Clusters for which no producer could be built or started. -/
  failed : List String := []
  /-- Whether the routes are others than before. -/
  routingChanged : Bool := false
  deriving DecidableEq, Inhabited

namespace Summary

/-- Whether the pool serves its clusters in another way than before. -/
def changed (summary : Summary) : Bool :=
  summary.routingChanged || !summary.created.isEmpty || !summary.removed.isEmpty

private def bracketed (names : List String) : String := "[" ++ ", ".intercalate names ++ "]"

/-- The outcome in one line; failures are named only if there are any. -/
def describe (summary : Summary) : String :=
  let line := "Reload " ++ summary.pool ++ "'s cluster info, current clusters " ++
    bracketed summary.routes ++ ", removed " ++ bracketed summary.removed ++ ", created " ++
    bracketed summary.created ++ ", rescued " ++ bracketed summary.rescued ++ ", unchanged " ++
    bracketed summary.unchanged
  if summary.failed.isEmpty then line else line ++ ", failed " ++ bracketed summary.failed

/-- The line ends with a list of names. -/
theorem describe_ends (summary : Summary) : ∃ text, summary.describe = text ++ "]" := by
  unfold describe
  split
  · exact ⟨_, (String.append_assoc ..).symm⟩
  · exact ⟨_, (String.append_assoc ..).symm⟩

end Summary

inductive Level
  | debug
  | info
  | warn
  | error
  deriving DecidableEq, Inhabited

def Level.name : Level → String
  | .debug => "DEBUG"
  | .info => "INFO"
  | .warn => "WARN"
  | .error => "ERROR"

/-- Why a producer is stopped. -/
inductive Role
  | retiring
  | active
  | expired
  | duplicate
  deriving DecidableEq, Inhabited

def Role.name : Role → String
  | .retiring => "retiring"
  | .active => "active"
  | .expired => "expired"
  | .duplicate => "duplicate"

/-- What happened. -/
inductive Event
  | poolStarting
  | poolClosed
  | clusterReloadFailed (fault : Fault)
  | topicReloadFailed (fault : Fault)
  | selectionEmpty
  | creationFailed (cluster : String) (fault : Fault)
  | creationOvertaken (cluster : String)
  | nothingChanged
  | changeFailed (summary : Summary)
  | changed (summary : Summary) (announces : Bool)
  | topicsChanged (current last : NameSet)
  | publishFailed (cluster : String) (fault : Fault)
  | firstPublishFailed (cluster : String) (fault : Fault)
  | producerCreated (cluster url : String)
  | producerStarted (cluster : String)
  | producerStopped (cluster : String) (role : Role)
  | stopFailed (cluster : String) (role : Role) (fault : Fault)
  | reclaimed (clusters : List String)
  | routingMissed (cluster : String)
  | maintenanceStarted (reloadMs reclaimMs : UInt64)
  | reloadScheduled
  | maintenanceStopped
  | maintenanceGone
  deriving DecidableEq, Inhabited

/-- An event in the pool of this name. -/
structure Note where
  pool : String
  event : Event
  deriving DecidableEq, Inhabited

/-- The value of a field. -/
inductive FieldValue
  | text (value : String)
  | number (value : UInt64)
  deriving DecidableEq, Inhabited

/-- A note as it is shown, with its fields in increasing order of their names. -/
structure Line where
  level : Level
  message : String
  fields : List (String × FieldValue)
  deriving DecidableEq, Inhabited

namespace Note

def level (note : Note) : Level :=
  match note.event with
  | .clusterReloadFailed _ | .topicReloadFailed _ | .creationFailed .. => .error
  | .changeFailed _ | .publishFailed .. | .firstPublishFailed .. | .stopFailed ..
  | .creationOvertaken _ => .warn
  | .nothingChanged | .producerCreated .. | .producerStarted _ | .producerStopped ..
  | .routingMissed _ | .reloadScheduled | .maintenanceGone => .debug
  | .poolStarting | .poolClosed | .selectionEmpty | .changed .. | .topicsChanged ..
  | .reclaimed _ | .maintenanceStarted .. | .maintenanceStopped => .info

def message (note : Note) : String :=
  match note.event with
  | .poolStarting => "Starting zone producer pool"
  | .poolClosed => "Closed zone producer pool"
  | .clusterReloadFailed _ => "Reload cluster info failure"
  | .topicReloadFailed _ => "Reload topic info failure"
  | .selectionEmpty => "Reload " ++ note.pool ++ "'s cluster info, but empty"
  | .creationFailed .. => "Failed to create cluster producer"
  | .creationOvertaken _ =>
    "Cluster became active during creation, stopping duplicate producer"
  | .nothingChanged => "Reload cluster info, nothing changed"
  | .changeFailed summary => summary.describe
  | .changed summary announces =>
    if announces then summary.describe ++ ", and updated sink status" else summary.describe
  | .topicsChanged .. => "Reload " ++ note.pool ++ "'s topics changed"
  | .publishFailed .. => "Failed to publish topics"
  | .firstPublishFailed .. => "Failed to publish topics on new producer"
  | .producerCreated .. => "Created cluster producer"
  | .producerStarted _ => "Memory producer started"
  | .producerStopped .. => "Stopped cluster producer"
  | .stopFailed .. => "Failed to stop cluster producer"
  | .reclaimed _ => "Clear " ++ note.pool ++ "'s expired cluster producers"
  | .routingMissed _ => "Routing miss, trying next cluster"
  | .maintenanceStarted .. => "Pool maintenance started"
  | .reloadScheduled => "Scheduled reload"
  | .maintenanceStopped => "Pool maintenance stopped"
  | .maintenanceGone => "Pool maintenance task already stopped"

def fields (note : Note) : List (String × FieldValue) :=
  let pool := ("pool", FieldValue.text note.pool)
  let cluster (name : String) := ("cluster", FieldValue.text name)
  let role (role : Role) := ("role", FieldValue.text role.name)
  let fault (fault : Fault) := ("error", FieldValue.text fault.message)
  match note.event with
  | .clusterReloadFailed found | .topicReloadFailed found => [fault found, pool]
  | .creationFailed name found | .publishFailed name found | .firstPublishFailed name found =>
    [cluster name, fault found, pool]
  | .topicsChanged current last =>
    [("current", .text (Text.quoteSet current.names)), ("last", .text (Text.quoteSet last.names)),
      pool]
  | .producerCreated name url => [cluster name, pool, ("url", .text url)]
  | .producerStarted name | .routingMissed name | .creationOvertaken name => [cluster name, pool]
  | .producerStopped name why => [cluster name, pool, role why]
  | .stopFailed name why found => [cluster name, fault found, pool, role why]
  | .reclaimed names => [pool, ("reclaimed", .text (Text.quoteList names))]
  | .maintenanceStarted reloadMs reclaimMs =>
    [pool, ("reclaim_ms", .number reclaimMs), ("reload_ms", .number reloadMs)]
  | .maintenanceGone => []
  | .poolStarting | .poolClosed | .selectionEmpty | .nothingChanged | .changeFailed _
  | .changed .. | .reloadScheduled | .maintenanceStopped => [pool]

def line (note : Note) : Line := ⟨note.level, note.message, note.fields⟩

/-- What neighbouring notes of one unordered round have in common: the stops for one reason, and
the attempts to publish. -/
def round? (note : Note) : Option (Option Role) :=
  match note.event with
  | .producerStopped _ role | .stopFailed _ role _ => some (some role)
  | .publishFailed .. => some none
  | _ => none

end Note

/-- The form of a line in a document. -/
def Line.written (line : Line) : List Char :=
  let field (entry : String × FieldValue) := (entry.1, match entry.2 with
    | .text value => Document.writtenText value
    | .number value => Document.writtenNat value.toNat)
  Document.writtenList [Document.writtenText line.level.name, Document.writtenText line.message,
    Document.writtenObject (line.fields.map field)]

/-- The lines of notes. Neighbouring notes of one unordered round are sorted by their form in a
document, since nothing else orders them. -/
def linesOfNotes (notes : List Note) : List Line :=
  (notes.splitBy fun first second => first.round?.isSome && first.round? == second.round?).flatMap
    fun group =>
      let lines := group.map Note.line
      lines.mergeSort fun first second => String.ofList first.written ≤ String.ofList second.written

end ClusterPool
