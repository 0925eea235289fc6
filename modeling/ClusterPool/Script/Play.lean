import ClusterPool.Program
import ClusterPool.Zone.Dispatch
import ClusterPool.Zone.Maintain
import ClusterPool.Zone.Schedule

/-! Scripts for a zone: the steps that one can take in it, and the entries that tell how each of
them went and how it left the zone. They are played on virtual time: the steps follow each other, and
background tasks go on while a step pauses. -/
namespace ClusterPool

/-- What can be done in a zone. A batch that is left out is made up, with a number. -/
inductive Action
  | start
  | close
  | reload
  | reconcileClusters
  | reconcileTopics
  | reclaim
  | send (batch : Option Batch)
  | dispatch (batch : Option Batch)
  | dispatchMany (count : Nat)
  | setClusters (clusters : List Cluster)
  | setTopics (topics : NameSet)
  | setFailing (on : Bool)
  | store (stored : Stored)
  | markReady
  | advance (span : Duration)
  | setClock (reading : Stamp)
  | breakClock (on : Bool)
  | now
  | sleep (ms : Nat)
  | refuseStart (cluster : String)
  | refuseBuild (cluster : String)
  | clearFailures (cluster : String)
  | delayStart (ms : Nat)
  | refusePublish (cluster : String) (on : Bool)
  | delayStop (cluster : String) (ms : Nat)
  | producers (cluster : String)
  | call (cluster : String) (index : Option Nat) (call : Producer.Call)
  | activeProducer (cluster : String)
  | activeSince (cluster : String)
  | requests
  | describe
  | maintain
  | shutdown
  | dropHandle
  | holdClose
  | releaseClose
  deriving Inhabited

/-- A step of a script. -/
inductive Step
  | plain (action : Action)
  /-- A dispatch at whose misses lists of steps are done. -/
  | watched (batch : Option Batch) (reactions : List (List Step))
  /-- A step with others at given times after its beginning. -/
  | during (main : Step) (meanwhile : List (Nat × Step))
  deriving Inhabited

/-- What an action brings back. -/
inductive Answer
  | nothing
  | done
  | begun
  | flag (value : Bool)
  | stamp (value : Stamp)
  | name (value : String)
  | names (values : List String)
  | outcomes (values : List (Except Fault String))
  | summary (summary : Summary)
  | fault (fault : Fault)
  | producers (producers : List Producer)
  | reply (reply : Producer.Reply)
  | holder (cluster : String) (phase : Phase)
  | description (name : String) (settings : Settings) (text : String)
  | timed (answer : Answer) (took : Nat)
  deriving Inhabited

/-- How a zone looks from outside. The retiring clusters cannot be seen while the bookkeeping gate
is shut. -/
structure View where
  routes : List String
  active : List (String × Stamp)
  retiring : Option (List (String × Stamp))
  topics : List String
  ready : Bool
  tally : Tally
  deriving Inhabited

/-- What happened inside a step: the entries of the lists that were done at misses, or the entries
made at times after the beginning of the step. -/
inductive Inside (ε : Type)
  | nothing
  | reactions (lists : List (List ε))
  | meanwhile (entries : List (Nat × ε))
  deriving Inhabited

/-- What a step brought back, how it left the zone, what was reported since the entry before, and
what happened inside it. -/
inductive Entry where
  | mk (answer : Answer) (view : View) (lines : List Line) (inside : Inside Entry)

namespace Zone

/-- The zone as it looks from outside. -/
def view (zone : Zone) : View where
  routes := zone.rotation.names
  active := zone.active.stamps
  retiring := if zone.bookkeeping.isFree then some zone.retiring.stamps else none
  topics := zone.topics.names
  ready := zone.catalog.ready
  tally := zone.tally

/-- Collects what was reported. -/
def takeLines (zone : Zone) : List Line × Zone :=
  (linesOfNotes zone.journal.reverse, { zone with journal := [] })

/-- The batch of a step, or the next numbered one. -/
def batchOr (batch : Option Batch) (zone : Zone) : Batch × Zone :=
  match batch with
  | some batch => (batch, zone)
  | none =>
    let number := zone.numbered + 1
    ({ group := "g", stream := "s", topic := "t", messages := 1
       payload := ("m" ++ toString number).toUTF8.toList },
      { zone with numbered := number })

end Zone

namespace Answer

def ofResult : Except Fault Unit → Answer
  | .ok _ => .done
  | .error found => .fault found

def ofExcept (answer : α → Answer) : Except Fault α → Answer
  | .ok value => answer value
  | .error found => .fault found

end Answer

namespace Action

/-- So many dispatches of numbered batches, after those whose outcomes are known, last first. -/
def dispatchNumbered (known : List (Except Fault String)) :
    Nat → Program Zone (List (Except Fault String))
  | 0 => return known.reverse
  | count + 1 => do
    let outcome ← Zone.dispatch (← .perform (Zone.batchOr none))
    dispatchNumbered (outcome :: known) count

/-- A call on a producer that passes by its pool. A start takes its time. -/
def callProducer (id : ProducerId) (request : Producer.Call) : Program Zone Answer := do
  match request with
  | .start => return .reply (.done (← Zone.startProducer id))
  | other =>
    match (← .get).fleet.find? id with
    | none => return .nothing
    | some producer =>
      let (reply, after) := producer.answer other
      .modify fun zone => { zone with fleet := zone.fleet.update id fun _ => after }
      return .reply reply

/-- A change of the zone that brings nothing back. -/
def change (action : Zone → Zone) : Program Zone Answer := do
  .modify action
  return .nothing

def changeFleet (action : Fleet → Fleet) : Program Zone Answer :=
  change fun zone => { zone with fleet := action zone.fleet }

def changeCatalog (action : Catalog → Catalog) : Program Zone Answer :=
  change fun zone => { zone with catalog := action zone.catalog }

def changeClock (action : Clock → Clock) : Program Zone Answer :=
  change fun zone => { zone with clock := action zone.clock }

/-- The work that an action is. -/
def work : Action → Program Zone Answer
  | start => do let _ ← Zone.start; return .nothing
  | close => do Zone.close; return .nothing
  | reload => do return ((← Zone.reload).map .summary).getD .nothing
  | reconcileClusters => do return .ofExcept .summary (← Zone.reconcileClustersAlone)
  | reconcileTopics => do return .ofExcept .flag (← Zone.reconcileTopicsAlone)
  | reclaim => do return .names (← Zone.reclaim)
  | send batch => do return .flag (← Zone.dispatch (← .perform (Zone.batchOr batch))).toBool
  | dispatch batch => do
    return .ofExcept .name (← Zone.dispatch (← .perform (Zone.batchOr batch)))
  | dispatchMany count => do return .outcomes (← dispatchNumbered [] count)
  | setClusters clusters => changeCatalog fun catalog => catalog.setClusters clusters
  | setTopics topics => changeCatalog fun catalog => catalog.setTopics topics
  | setFailing on => changeCatalog fun catalog => catalog.setFailing on
  | store stored => changeCatalog fun catalog => catalog.store stored
  | markReady => changeCatalog Catalog.markReady
  | advance span => changeClock fun clock => clock.advance span
  | setClock reading => changeClock fun clock => clock.set reading
  | breakClock on => changeClock fun clock => { clock with broken := on }
  | now => do return .stamp (← Zone.readClock)
  | sleep ms => do Zone.rest ms; return .nothing
  | refuseStart cluster => changeFleet fun fleet => fleet.refuseStart cluster
  | refuseBuild cluster => changeFleet fun fleet => fleet.refuseBuild cluster
  | clearFailures cluster => changeFleet fun fleet => fleet.clearFailures cluster
  | delayStart ms => changeFleet fun fleet => { fleet with startDelay := ms }
  | refusePublish cluster on => changeFleet fun fleet => fleet.refusePublish cluster on
  | delayStop cluster ms => changeFleet fun fleet => fleet.delayStop cluster ms
  | producers cluster => do return .producers ((← .get).fleet.ofCluster cluster)
  | call cluster index request => do
    let ids := (← .get).fleet.idsOfCluster cluster
    match (match index with | some index => ids[index]? | none => ids.getLast?) with
    | none => return .nothing
    | some id => callProducer id request
  | activeProducer cluster => do
    let zone ← .get
    let producer := (zone.active.find? cluster).bind fun slot => zone.fleet.find? slot.producer
    return (producer.map fun found => .holder found.cluster.name found.phase).getD .nothing
  | activeSince cluster => do
    return (((← .get).active.find? cluster).map fun slot => .stamp slot.since).getD .nothing
  | requests => do return .names (← .get).fleet.requests
  | describe => do
    let zone ← .get
    return .description zone.name zone.settings zone.describe
  | maintain => do
    match ← Zone.maintain with
    | .ok _ => return .begun
    | .error found => return .fault found
  | shutdown => do return ((← Zone.shutdown).map .ofResult).getD .nothing
  | dropHandle => change Zone.dropHandle
  | holdClose => do return .flag (← Zone.holdClose)
  | releaseClose => do return .flag (← Zone.releaseClose)

end Action

namespace Step

/-- The entry of a step, made when the step is over. -/
def entry (work : Program Zone (Answer × Inside Entry)) : Program Zone Entry := do
  let (answer, inside) ← work
  let lines ← .perform Zone.takeLines
  return .mk answer (← .get).view lines inside

mutual

/-- The work that a step is. -/
def work : Step → Program Zone (Answer × Inside Entry)
  | plain action => do return (← action.work, .nothing)
  | watched batch reactions => do
    let dispatch := Zone.dispatch (← .perform (Zone.batchOr batch))
    let (outcome, lists) ← dispatch.interject (entriesOfLists reactions) []
    return (.ofExcept .name outcome, .reactions lists)
  | during main meanwhile => do
    let start := (← .get).now
    let timed : Program Zone Answer := do
      let (answer, _) ← main.work
      return .timed answer ((← .get).now - start)
    let (answer, entries) ← timed.beside Zone.now (entriesFrom start meanwhile)
    return (answer, .meanwhile entries)

/-- Steps one after the other. -/
def entriesOf : List Step → Program Zone (List Entry)
  | [] => return []
  | step :: rest => do
    let first ← entry step.work
    return first :: (← entriesOf rest)

def entriesOfLists : List (List Step) → List (Program Zone (List Entry))
  | [] => []
  | steps :: rest => entriesOf steps :: entriesOfLists rest

/-- Steps at their times after `start`, or as soon as the step before is over. Each entry comes
with the time at which it was made. -/
def entriesFrom (start : Nat) : List (Nat × Step) → Program Zone (List (Nat × Entry))
  | [] => return []
  | (offset, step) :: rest => do
    Zone.rest (start + offset - (← .get).now)
    let first ← entry step.work
    let time := (← .get).now - start
    return (time, first) :: (← entriesFrom start rest)

end

end Step
end ClusterPool

namespace ClusterPool.Script

/-- Plays the steps one after the other, until one of them does not come to its end. -/
def playFrom (stage : Stage) : List Step → Option (List Entry)
  | [] => some []
  | step :: rest =>
    match stage.play (Step.entry step.work) with
    | (none, _) => none
    | (some entry, stage) => (playFrom stage rest).map (entry :: ·)

/-- The entries of a whole script, if each of its steps comes to its end. -/
def play (zone : Zone) (steps : List Step) : Option (List Entry) := playFrom { zone } steps

end ClusterPool.Script
