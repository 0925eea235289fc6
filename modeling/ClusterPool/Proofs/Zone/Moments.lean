import ClusterPool.Proofs.Program.Crowd
import ClusterPool.Proofs.Zone.Ending
import ClusterPool.Zone.Reconcile

/-! The changes that the work of a pool is made of. Whatever is true of each of them is true of every
moment of the work, no matter what comes between these moments. -/
namespace ClusterPool.Zone
open Program

theorem createProducer_within {allowed : Zone → Zone → Prop} {topics : NameSet} {cluster : Cluster}
    (requests : ∀ zone, allowed zone (request cluster zone).2)
    (starts : ∀ id, (startProducer id).Within allowed)
    (publishes : ∀ id zone, allowed zone ((publishFirst topics cluster id zone).report
      (.producerCreated cluster.name cluster.url))) :
    (createProducer topics cluster).Within allowed := by
  refine Within.bind (within_perform.mpr requests) fun requested => ?_
  cases requested with
  | error fault => exact within_done
  | ok id =>
    refine (starts id).bind fun started => ?_
    cases started with
    | error fault => exact within_done
    | ok _ => exact Within.bind (within_modify.mpr (publishes id)) fun _ => within_done

section
variable {allowed : Zone → Zone → Prop} (still : ∀ zone, allowed zone zone)
include still

theorem rest_within (ms : Nat) : (rest ms).Within allowed := by
  unfold rest
  split
  · exact within_done
  · exact (within_get still).bind fun _ => within_sleepUntil

theorem readClock_within : readClock.Within allowed := by
  refine (within_get still).bind fun zone => ?_
  split
  · exact within_crash
  · exact within_done

theorem fetch_within (part : Inventory → α) : (fetch part).Within allowed := by
  refine (within_get still).bind fun zone => ?_
  dsimp only
  split
  · exact Within.bind within_sleepUntil fun _ => (within_get still).bind fun _ => within_done
  · exact (within_get still).bind fun _ => within_done

theorem startProducer_within {id : ProducerId}
    (begins : ∀ zone : Zone,
      allowed zone { zone with fleet := zone.fleet.update id Producer.beginStart })
    (finishes : ∀ zone, allowed zone (finishStart id zone).2) :
    (startProducer id).Within allowed := by
  refine Within.bind (within_modify.mpr begins) fun _ => (within_get still).bind fun _ => ?_
  exact (rest_within still _).bind fun _ => within_perform.mpr finishes

theorem stopProducer_within {id : ProducerId}
    (stops : ∀ zone : Zone, allowed zone { zone with fleet := (zone.fleet.stop id).2 })
    (cluster : String) (role : Role) : (stopProducer cluster id role).Within allowed := by
  refine Within.bind (within_perform.mpr stops) fun _ => (within_get still).bind fun _ => ?_
  exact (rest_within still _).bind fun _ => within_done

theorem createAll_within {topics : NameSet}
    (creates : ∀ cluster, (createProducer topics cluster).Within allowed)
    (activates : ∀ cluster id now zone, allowed zone (activate cluster id now zone).2)
    (stops : ∀ cluster id, (stopProducer cluster id .duplicate).Within allowed)
    (overtakes : ∀ cluster zone, allowed zone (report (.creationOvertaken cluster) zone))
    (reports : ∀ stop zone, allowed zone (reportStop stop zone))
    (fails : ∀ cluster fault zone,
      allowed zone ((zone.count .reloadFailures).report (.creationFailed cluster fault)))
    (creation : Creation) (missing : List Cluster) :
    (createAll topics creation missing).Within allowed := by
  induction missing generalizing creation with
  | nil => exact within_done
  | cons cluster rest ih =>
    refine (creates cluster).bind fun result => ?_
    cases result with
    | error fault => exact Within.bind (within_modify.mpr (fails _ fault)) fun _ => ih _
    | ok id =>
      refine (readClock_within still).bind fun now =>
        Within.bind (within_perform.mpr (activates cluster id now)) fun activated => ?_
      cases activated with
      | true => exact ih _
      | false =>
        refine Within.bind (within_modify.mpr (overtakes _)) fun _ => (stops _ id).bind fun stop => ?_
        exact Within.bind (within_modify.mpr (reports stop)) fun _ => ih _

theorem reconcileTopics_within
    (absorbs : ∀ current zone, allowed zone (absorbTopics current zone).2) :
    reconcileTopics.Within allowed := by
  refine (fetch_within still Inventory.topics).bind fun fetched => ?_
  cases fetched with
  | error fault => exact within_done
  | ok current =>
    exact Within.bind (within_perform.mpr (absorbs current)) fun _ => within_done

omit still in
/-- What a reload does once it has reconciled the clusters. -/
theorem afterClusters_within (topics : reconcileTopics.Within allowed)
    (counts : ∀ zone, allowed zone (count .reloads zone))
    (clusterFails : ∀ fault zone, allowed zone (reloadFailed (.clusterReloadFailed fault) zone))
    (topicFails : ∀ fault zone, allowed zone (reloadFailed (.topicReloadFailed fault) zone))
    (outcome : Except Fault Summary) :
    (do
      match outcome with
      | .ok _ => pure ()
      | .error fault => .modify (reloadFailed (.clusterReloadFailed fault))
      match ← reconcileTopics with
      | .ok _ => pure ()
      | .error fault => .modify (reloadFailed (.topicReloadFailed fault))
      .modify (count .reloads)
      return outcome.toOption : Program Zone (Option Summary)).Within allowed := by
  have counted : (modify (count .reloads)).Within allowed := within_modify.mpr counts
  have rest : (do
      match ← reconcileTopics with
      | .ok _ => pure ()
      | .error fault => .modify (reloadFailed (.topicReloadFailed fault))
      .modify (count .reloads)
      return outcome.toOption : Program Zone (Option Summary)).Within allowed := by
    refine topics.bind fun informed => ?_
    cases informed with
    | ok _ => exact counted.bind fun _ => within_done
    | error fault =>
      exact Within.bind (within_modify.mpr (topicFails fault)) fun _ =>
        counted.bind fun _ => within_done
  cases outcome with
  | ok summary => exact rest
  | error fault => exact Within.bind (within_modify.mpr (clusterFails fault)) fun _ => rest

end

/-- Counting, reporting and passing the gate of the tables are allowed. -/
structure Tolerant (allowed : Zone → Zone → Prop) : Prop where
  notes : ∀ zone tally journal, allowed zone { zone with tally, journal }
  book : ∀ zone bookkeeping, allowed zone { zone with bookkeeping }

variable {allowed : Zone → Zone → Prop} (tolerant : Tolerant allowed)

namespace Tolerant
include tolerant

theorem still (zone : Zone) : allowed zone zone := tolerant.notes zone zone.tally zone.journal

theorem look : (get : Program Zone Zone).Within allowed := within_get tolerant.still

theorem report (event : Event) : (modify (report event)).Within allowed :=
  within_modify.mpr fun zone => tolerant.notes zone _ _

theorem reportStop (stop : StopReport) (zone : Zone) : allowed zone (zone.reportStop stop) := by
  obtain ⟨_, _, rest⟩ := reportStop_rest stop zone
  rw [rest]
  exact tolerant.notes zone _ _

theorem readClock : readClock.Within allowed := readClock_within tolerant.still

theorem fetch (part : Inventory → α) : (fetch part).Within allowed :=
  fetch_within tolerant.still part

/-- Work behind the gate of the tables. -/
theorem inside {work : Program Zone α} (within : work.Within allowed) :
    (bookGate.inside work).Within allowed :=
  within.inside tolerant.still (fun zone => tolerant.book zone _) fun zone => tolerant.book zone _

theorem startProducer {id : ProducerId}
    (begins : ∀ zone : Zone,
      allowed zone { zone with fleet := zone.fleet.update id Producer.beginStart })
    (finishes : ∀ zone, allowed zone (finishStart id zone).2) :
    (startProducer id).Within allowed := startProducer_within tolerant.still begins finishes

theorem stopProducer {id : ProducerId}
    (stops : ∀ zone : Zone, allowed zone { zone with fleet := (zone.fleet.stop id).2 })
    (cluster : String) (role : Role) : (stopProducer cluster id role).Within allowed :=
  stopProducer_within tolerant.still stops cluster role

theorem createAll {topics : NameSet}
    (creates : ∀ cluster, (Zone.createProducer topics cluster).Within allowed)
    (activates : ∀ cluster id now zone, allowed zone (activate cluster id now zone).2)
    (stops : ∀ cluster id, (Zone.stopProducer cluster id .duplicate).Within allowed)
    (creation : Creation) (missing : List Cluster) :
    (createAll topics creation missing).Within allowed :=
  createAll_within tolerant.still creates activates stops (fun _ zone => tolerant.notes zone _ _)
    tolerant.reportStop (fun _ _ zone => tolerant.notes zone _ _) creation missing

theorem adopt {order : List Cluster} (divides : ∀ now zone, allowed zone (divide now order zone).2)
    (creates : ∀ topics cluster, (Zone.createProducer topics cluster).Within allowed)
    (activates : ∀ cluster id now zone, allowed zone (activate cluster id now zone).2)
    (stops : ∀ cluster id, (Zone.stopProducer cluster id .duplicate).Within allowed)
    (publishes : ∀ seen zone, allowed zone (publishRoutes (activeAmong order seen) zone).2)
    (retires : ∀ routes now zone, allowed zone (retireOthers routes now zone).2)
    (concludes : ∀ summary zone, allowed zone (conclude summary zone)) :
    (adopt order).Within allowed := by
  refine Within.bind (tolerant.inside ?_) fun division => ?_
  · exact tolerant.readClock.bind fun now => within_perform.mpr (divides now)
  refine tolerant.look.bind fun seen => ?_
  refine Within.bind (tolerant.createAll (creates _) activates stops _ _) fun creation => ?_
  refine tolerant.look.bind fun seen => ?_
  refine Within.bind (within_perform.mpr (publishes seen)) fun published => ?_
  refine Within.bind (tolerant.inside ?_) fun removed => ?_
  · exact tolerant.readClock.bind fun now => within_perform.mpr (retires _ now)
  exact tolerant.look.bind fun seen =>
    Within.bind (within_modify.mpr (concludes _)) fun _ => within_done

theorem reconcileClusters
    (adopts : ∀ clusters, (Zone.adopt (Cluster.firstOfEachName clusters)).Within allowed) :
    reconcileClusters.Within allowed := by
  refine (tolerant.fetch Inventory.clusters).bind fun fetched => ?_
  cases fetched with
  | error fault => exact within_done
  | ok clusters =>
    refine tolerant.look.bind fun seen => ?_
    dsimp only
    split
    · exact (tolerant.report _).bind fun _ => within_done
    · exact (adopts _).bind fun _ => within_done

theorem reconcileTopics
    (absorbs : ∀ current zone, allowed zone (absorbTopics current zone).2) :
    reconcileTopics.Within allowed := reconcileTopics_within tolerant.still absorbs

/-- What a reload does once it has reconciled the clusters. -/
theorem afterClusters (topics : Zone.reconcileTopics.Within allowed)
    (outcome : Except Fault Summary) :
    (do
      match outcome with
      | .ok _ => pure ()
      | .error fault => .modify (reloadFailed (.clusterReloadFailed fault))
      match ← Zone.reconcileTopics with
      | .ok _ => pure ()
      | .error fault => .modify (reloadFailed (.topicReloadFailed fault))
      .modify (count .reloads)
      return outcome.toOption : Program Zone (Option Summary)).Within allowed :=
  afterClusters_within topics (fun zone => tolerant.notes zone _ _)
    (fun _ zone => tolerant.notes zone _ _) (fun _ zone => tolerant.notes zone _ _) outcome

theorem reclaim (takes : ∀ now zone, allowed zone (takeDue now zone).2)
    (stops : ∀ cluster id, (Zone.stopProducer cluster id .expired).Within allowed) :
    reclaim.Within allowed := by
  have each : ∀ entry, (reclaimOne entry).Within allowed := by
    refine fun entry => (stops _ _).bind fun stop => within_modify.mpr fun zone => ?_
    obtain ⟨_, _, rest⟩ := reportStop_rest stop zone
    rw [rest]
    exact tolerant.notes zone _ _
  refine (tolerant.inside ?_).bind fun due => ?_
  · refine tolerant.look.bind fun zone => ?_
    split
    · exact within_done
    · exact tolerant.readClock.bind fun now => Within.bind (within_perform.mpr (takes now))
        fun due => (Within.each each _).bind fun _ => within_done
  · split
    · exact within_done
    · exact (tolerant.report _).bind fun _ => within_done

private theorem settle (stop : Option StopReport) (zone : Zone) : allowed zone (zone.settle stop) := by
  unfold Zone.settle
  split
  · exact tolerant.reportStop _ zone
  · exact tolerant.still zone

private theorem stopAll
    (stops : ∀ cluster id role, (Zone.stopProducer cluster id role).Within allowed) (role : Role)
    (last : Option StopReport) (entries : List (String × Slot)) :
    (stopAll role last entries).Within allowed := by
  induction entries generalizing last with
  | nil => exact within_done
  | cons entry rest ih =>
    refine Within.bind (within_modify.mpr (tolerant.settle last)) fun _ => ?_
    exact (stops _ _ role).bind fun stop => ih _

private theorem stopActive (takes : ∀ cluster zone, allowed zone (takeActive cluster zone).2)
    (stops : ∀ cluster id role, (Zone.stopProducer cluster id role).Within allowed)
    (last : Option StopReport) (clusters : List String) :
    (stopActive last clusters).Within allowed := by
  induction clusters generalizing last with
  | nil => exact within_done
  | cons cluster rest ih =>
    refine Within.bind (within_perform.mpr (takes cluster)) fun taken => ?_
    exact (tolerant.stopAll stops .active last taken).bind fun _ => ih _

theorem close (takesRetiring : ∀ zone, allowed zone (takeRetiring zone).2)
    (takesActive : ∀ cluster zone, allowed zone (takeActive cluster zone).2)
    (stops : ∀ cluster id role, (Zone.stopProducer cluster id role).Within allowed)
    (clears : ∀ zone : Zone, allowed zone { zone with rotation := zone.rotation.clear })
    (forgets : ∀ zone : Zone, allowed zone { zone with topics := .empty })
    (opens : ∀ last zone, allowed zone (bookGate.leave (zone.settle last))) :
    close.Within allowed := by
  refine Within.bind ?_ fun last => ?_
  · have enters : bookGate.enter.Within allowed :=
      fun zone => ⟨tolerant.book zone _, within_waitFor tolerant.still _⟩
    refine enters.bind fun _ => Within.bind (within_perform.mpr takesRetiring) fun entries => ?_
    refine (tolerant.stopAll stops .retiring none entries).bind fun last => ?_
    exact tolerant.look.bind fun zone => tolerant.stopActive takesActive stops last _
  · refine Within.bind (within_modify.mpr (opens last)) fun _ => ?_
    refine Within.bind (within_modify.mpr clears) fun _ => ?_
    exact Within.bind (within_modify.mpr forgets) fun _ => tolerant.report _

end Tolerant
end ClusterPool.Zone
