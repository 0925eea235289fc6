import ClusterPool.Proofs.Program.Outcome
import ClusterPool.Proofs.Zone.Moments
import ClusterPool.Proofs.Zone.Reloading

/-! What a pool counts is what it answers: every producer that a reconciliation tells to have been
created, rescued or removed, every reclaimed cluster and every reload is counted, once. Only the
mishaps on the way are counted without being answered. -/
namespace ClusterPool
open Program

/-- The event is a failure that the one who asked for the work is not told of. -/
def Counted.isMishap : Counted → Bool
  | .routingMisses | .reloadFailures | .stopFailures => true
  | _ => false

namespace Tally

theorem get_count (tally : Tally) (counted event : Counted) : (tally.count counted).get event =
    if event = counted then tally.get event + 1 else tally.get event := by
  cases counted <;> cases event <;> rfl

/-- Between two tallies these events were counted, with any mishaps besides. -/
def Gains (events : List Counted) (before after : Tally) : Prop :=
  ∀ event, event.isMishap = false →
    after.get event = before.get event + UInt64.ofNat (events.count event)

namespace Gains

theorem refl (tally : Tally) : Gains [] tally tally := fun event _ => by simp

theorem trans {early late : List Counted} {first second third : Tally}
    (former : Gains early first second) (latter : Gains late second third) :
    Gains (early ++ late) first third := by
  intro event told
  rw [latter event told, former event told, List.count_append, UInt64.ofNat_add, UInt64.add_assoc]

theorem count (tally : Tally) (event : Counted) : Gains [event] tally (tally.count event) := by
  intro other _
  rw [get_count]
  by_cases same : other = event
  · simp [same]
  · have absent : [event].count other = 0 := List.count_eq_zero.mpr (by simpa using same)
    simp [same, absent]

theorem mishap (tally : Tally) {event : Counted} (mishap : event.isMishap = true) :
    Gains [] tally (tally.count event) := by
  intro other told
  have differs : other ≠ event := fun same => by simp [same, mishap] at told
  simp [get_count, differs]

/-- One event counted for each of these entries. -/
theorem each (event : Counted) (entries : List α) (tally : Tally) :
    Gains (entries.map fun _ => event) tally
      (entries.foldl (fun tally _ => tally.count event) tally) := by
  induction entries generalizing tally with
  | nil => exact refl tally
  | cons entry rest ih => exact (count tally event).trans (ih (tally.count event))

end Gains
end Tally

/-- What a reconciliation of the clusters has counted, by its summary. -/
def Summary.counted (summary : Summary) : List Counted :=
  summary.rescued.map (fun _ => .producersRescued) ++
    summary.created.map (fun _ => .producersCreated) ++
    summary.removed.map fun _ => .producersRetired

namespace Zone

/-- Nothing was counted between two zones but mishaps. -/
def Unmoved (before after : Zone) : Prop := before.tally.Gains [] after.tally

namespace Unmoved

theorem of_tally {before after : Zone} (same : after.tally = before.tally) :
    Unmoved before after := by
  rw [Unmoved, same]
  exact .refl before.tally

theorem refl (zone : Zone) : Unmoved zone zone := .of_tally rfl

theorem trans {first second third : Zone} (early : Unmoved first second)
    (late : Unmoved second third) : Unmoved first third := by
  have both := Tally.Gains.trans early late
  rwa [List.append_nil] at both

end Unmoved

/-- If the work, done alone, comes to its end, then what it has counted is `told` by its value. -/
def Counts (told : α → List Counted → Prop) (work : Program Zone α) : Prop :=
  ∀ zone, work.Ensures passUntil
    (fun value after => ∃ events, told value events ∧ zone.tally.Gains events after.tally) zone

namespace Counts

theorem done {told : α → List Counted → Prop} {value : α} (tells : told value []) :
    Counts told (.done value) :=
  fun (zone : Zone) => ensures_done.mpr ⟨[], tells, .refl zone.tally⟩

theorem perform {told : α → List Counted → Prop} {action : Zone → α × Zone}
    (counts : ∀ zone, ∃ events, told (action zone).1 events ∧
      zone.tally.Gains events (action zone).2.tally) : Counts told (.perform action) :=
  fun zone => ensures_perform.mpr (counts zone)

theorem modify {told : Unit → List Counted → Prop} {change : Zone → Zone}
    (counts : ∀ zone : Zone, ∃ events,
      told () events ∧ zone.tally.Gains events (change zone).tally) :
    Counts told (.modify change) := fun zone => ensures_modify.mpr (counts zone)

/-- What two pieces of work count adds up. -/
theorem bind {early : α → List Counted → Prop} {told : β → List Counted → Prop}
    {work : Program Zone α} {next : α → Program Zone β} (first : Counts early work)
    (second : ∀ value events, early value events →
      Counts (fun result more => told result (events ++ more)) (next value)) :
    Counts told (work.bind next) := by
  intro zone
  refine Ensures.bind ((first zone).mono ?_)
  rintro value middle ⟨events, tells, former⟩
  refine (second value events tells middle).mono ?_
  rintro result after ⟨more, tells, latter⟩
  exact ⟨events ++ more, tells, former.trans latter⟩

/-- Work of which no moment counts anything. -/
theorem of_unmoved {work : Program Zone α} (unmoved : work.Within Unmoved) :
    Counts (fun _ events => events = []) work := by
  intro zone
  have nothing : work.Ensures passUntil (fun _ after => Unmoved zone after) zone := by
    refine unmoved.ensures .refl .trans (fun moment zone => ?_) zone
    exact .of_tally rfl
  exact nothing.mono fun _ _ gains => ⟨[], rfl, gains⟩

/-- Work that counts nothing may come first. -/
theorem after {told : β → List Counted → Prop} {work : Program Zone α}
    {next : α → Program Zone β} (unmoved : work.Within Unmoved)
    (second : ∀ value, Counts told (next value)) : Counts told (work.bind next) := by
  refine (of_unmoved unmoved).bind ?_
  rintro value _ rfl
  exact second value

theorem inside {told : α → List Counted → Prop} {work : Program Zone α} {gate : Gate Zone}
    (counts : Counts told work)
    (passes : ∀ change zone, (gate.update change zone).tally = zone.tally) :
    Counts told (gate.inside work) := by
  have enters : gate.enter.Within Unmoved := fun zone =>
    ⟨.of_tally (passes _ zone), within_waitFor .refl _⟩
  refine after enters fun _ zone => Ensures.ending ((counts zone).mono ?_)
  rintro value after ⟨events, tells, gains⟩
  refine ⟨events, tells, ?_⟩
  have left : (gate.leave after).tally = after.tally := passes _ after
  rw [left]
  exact gains

end Counts

/-! The pieces of work that count mishaps at most. -/

private theorem report_unmoved (event : Event) : (modify (report event)).Within Unmoved :=
  within_modify.mpr fun _ => .of_tally rfl

private theorem look_unmoved : (get : Program Zone Zone).Within Unmoved := within_get .refl

private theorem readClock_unmoved : readClock.Within Unmoved := readClock_within .refl

private theorem fails_unmoved (event : Event) : (modify (reloadFailed event)).Within Unmoved :=
  within_modify.mpr fun zone => Tally.Gains.mishap zone.tally rfl

private theorem reportStop_unmoved (stop : StopReport) (zone : Zone) :
    Unmoved zone (zone.reportStop stop) := by
  unfold reportStop
  split
  · exact .of_tally rfl
  · exact Tally.Gains.mishap zone.tally rfl

private theorem stopProducer_unmoved (cluster : String) (id : ProducerId) (role : Role) :
    (stopProducer cluster id role).Within Unmoved :=
  stopProducer_within .refl (fun _ => .of_tally rfl) cluster role

private theorem finishStart_tally (id : ProducerId) (zone : Zone) :
    (finishStart id zone).2.tally = zone.tally := by
  unfold finishStart withFleet
  dsimp only
  split <;> rfl

private theorem publishFirst_unmoved (topics : NameSet) (cluster : Cluster) (id : ProducerId)
    (zone : Zone) : Unmoved zone (publishFirst topics cluster id zone) := by
  unfold publishFirst withFleet
  split
  · exact .refl zone
  · dsimp only
    split
    · exact .of_tally rfl
    · exact Tally.Gains.mishap zone.tally rfl

private theorem createProducer_unmoved (topics : NameSet) (cluster : Cluster) :
    (createProducer topics cluster).Within Unmoved := by
  refine createProducer_within (fun zone => .of_tally rfl) (fun id => ?_) fun id zone => ?_
  · exact startProducer_within .refl (fun _ => .of_tally rfl)
      fun zone => .of_tally (finishStart_tally id zone)
  · exact publishFirst_unmoved topics cluster id zone

private theorem publishTopics_unmoved (entry : String × Slot) (zone : Zone) :
    Unmoved zone (publishTopics zone entry) := by
  unfold publishTopics withFleet
  dsimp only
  split
  · exact .of_tally rfl
  · exact Tally.Gains.mishap zone.tally rfl

private theorem absorbTopics_unmoved (current : NameSet) (zone : Zone) :
    Unmoved zone (absorbTopics current zone).2 := by
  have all : ∀ (entries : List (String × Slot)) (zone : Zone),
      Unmoved zone (entries.foldl publishTopics zone) := by
    intro entries
    induction entries with
    | nil => exact Unmoved.refl
    | cons entry rest ih =>
      exact fun zone => (publishTopics_unmoved entry zone).trans (ih (publishTopics zone entry))
  unfold absorbTopics
  split
  · exact .refl zone
  · exact all zone.active.entries _

private theorem reconcileTopics_unmoved : reconcileTopics.Within Unmoved := by
  refine (fetch_within .refl Inventory.topics).bind fun fetched => ?_
  cases fetched with
  | error fault => exact within_done
  | ok current =>
    exact Within.bind (within_perform.mpr (absorbTopics_unmoved current)) fun _ => within_done

private theorem conclude_unmoved (summary : Summary) (zone : Zone) :
    Unmoved zone (conclude summary zone) := by
  obtain ⟨_, _, concluded⟩ := conclude_rest summary zone
  rw [concluded]
  exact .of_tally rfl

/-! The pieces of work that count what they answer. -/

/-- Sorting clusters in counts those that are rescued. -/
private theorem divide_counts (now : Stamp) (order : List Cluster) (zone : Zone) :
    zone.tally.Gains ((divide now order zone).1.rescued.map fun _ => .producersRescued)
      (divide now order zone).2.tally := by
  suffices more : ∀ (earlier : Division) (zone : Zone), ∃ names,
      let (division, after) := order.foldl
        (fun state cluster => classify now state.1 cluster state.2) (earlier, zone)
      division.rescued = earlier.rescued ++ names ∧
        zone.tally.Gains (names.map fun _ => .producersRescued) after.tally by
    obtain ⟨names, rescued, gains⟩ := more {} zone
    rw [divide, rescued]
    exact gains
  induction order with
  | nil => exact fun earlier zone => ⟨[], (List.append_nil _).symm, .refl zone.tally⟩
  | cons cluster rest ih =>
    intro earlier zone
    have first : ∃ names, (classify now earlier cluster zone).1.rescued =
        earlier.rescued ++ names ∧ zone.tally.Gains (names.map fun _ => .producersRescued)
          (classify now earlier cluster zone).2.tally := by
      unfold classify
      split
      · exact ⟨[], (List.append_nil _).symm, .refl zone.tally⟩
      · split
        · exact ⟨[cluster.name], rfl, .count zone.tally .producersRescued⟩
        · exact ⟨[], (List.append_nil _).symm, .refl zone.tally⟩
    obtain ⟨names, rescued, gains⟩ := first
    obtain ⟨others, all, later⟩ := ih (classify now earlier cluster zone).1
      (classify now earlier cluster zone).2
    refine ⟨names ++ others, ?_, ?_⟩
    · rw [← List.append_assoc, ← rescued]
      exact all
    · rw [List.map_append]
      exact gains.trans later

/-- A round of creations counts those that come to serve. -/
private theorem createAll_counts (topics : NameSet) (creation : Creation)
    (missing : List Cluster) :
    Counts (fun result events => ∃ names, result.created = creation.created ++ names ∧
      events = names.map fun _ => .producersCreated) (createAll topics creation missing) := by
  induction missing generalizing creation with
  | nil => exact .done ⟨[], (List.append_nil _).symm, rfl⟩
  | cons cluster rest ih =>
    refine .after (createProducer_unmoved topics cluster) fun result => ?_
    cases result with
    | error fault =>
      refine .after (within_modify.mpr fun zone => ?_) fun _ => ih _
      exact Tally.Gains.mishap zone.tally rfl
    | ok id =>
      refine .after readClock_unmoved fun now => ?_
      -- The newcomer is counted if it becomes active, and not if it was overtaken.
      have activates : Counts (fun activated events => events =
          if activated = true then [.producersCreated] else [])
          (.perform (activate cluster id now)) := by
        refine .perform fun zone => ⟨_, rfl, ?_⟩
        unfold activate
        split
        · exact .refl zone.tally
        · exact .count zone.tally .producersCreated
      refine activates.bind ?_
      rintro activated _ rfl
      cases activated with
      | true =>
        intro zone
        refine (ih _ zone).mono ?_
        rintro result after ⟨_, ⟨names, created, rfl⟩, gains⟩
        exact ⟨_, ⟨cluster.name :: names, by rw [created, List.append_assoc]; rfl, rfl⟩, gains⟩
      | false =>
        refine .after (report_unmoved _) fun _ => ?_
        refine .after (stopProducer_unmoved _ id _) fun stop => ?_
        exact .after (within_modify.mpr (reportStop_unmoved stop)) fun _ => ih _

/-- Retirement counts those that it answers. -/
private theorem retireOthers_counts (routes : List String) (now : Stamp) (zone : Zone) :
    zone.tally.Gains ((retireOthers routes now zone).1.map fun _ => .producersRetired)
      (retireOthers routes now zone).2.tally := by
  have gains := Tally.Gains.each .producersRetired
    (zone.active.filter fun name _ => !routes.contains name).entries zone.tally
  rw [retireOthers, NameTable.names, List.map_map]
  exact gains

private theorem adopt_counts (order : List Cluster) :
    Counts (fun summary events => events = summary.counted) (adopt order) := by
  have divides : Counts (fun division events => events =
      division.rescued.map fun _ => .producersRescued)
      (bookGate.inside do
        let now ← readClock
        .perform (divide now order)) := by
    refine .inside (.after readClock_unmoved fun now => .perform fun zone => ?_) fun _ _ => rfl
    exact ⟨_, rfl, divide_counts now order zone⟩
  have retires : ∀ routes, Counts (fun removed events => events =
      removed.map fun _ => .producersRetired)
      (bookGate.inside do
        let now ← readClock
        .perform (retireOthers routes now)) := by
    refine fun routes => .inside (.after readClock_unmoved fun now => .perform fun zone => ?_)
      fun _ _ => rfl
    exact ⟨_, rfl, retireOthers_counts routes now zone⟩
  refine divides.bind ?_
  rintro division _ rfl
  refine .after look_unmoved fun seen => (createAll_counts _ {} division.missing).bind ?_
  rintro creation _ ⟨names, created, rfl⟩
  refine .after look_unmoved fun chosen => ?_
  refine .after (within_perform.mpr fun _ => .of_tally rfl) fun changed => ?_
  refine (retires _).bind ?_
  rintro removed _ rfl
  refine .after look_unmoved fun seen => ?_
  refine .after (within_modify.mpr (conclude_unmoved _)) fun _ => .done ?_
  obtain rfl : names = creation.created := created.symm
  rw [Summary.counted, List.append_nil, List.append_assoc]

theorem reconcileClusters_counts : Counts (fun result events => events =
    (result.toOption.map Summary.counted).getD []) reconcileClusters := by
  refine .after (fetch_within .refl Inventory.clusters) fun fetched => ?_
  cases fetched with
  | error fault => exact .done rfl
  | ok clusters =>
    refine .after look_unmoved fun zone => ?_
    dsimp only
    split
    · exact .after (report_unmoved _) fun _ => .done rfl
    · refine (adopt_counts _).bind ?_
      rintro summary _ rfl
      exact .done (List.append_nil _)

/-- A reload counts itself, and what its reconciliation of the clusters does. -/
theorem reload_counts : Counts (fun answer events => events =
    (answer.map Summary.counted).getD [] ++ [.reloads]) reload := by
  refine Counts.inside (reconcileClusters_counts.bind ?_) fun _ _ => rfl
  rintro outcome _ rfl
  have counted : Counts (fun answer more => (outcome.toOption.map Summary.counted).getD [] ++ more =
      (answer.map Summary.counted).getD [] ++ [.reloads]) (do
        .modify (count .reloads)
        return outcome.toOption) := by
    have counts : Counts (fun _ events => events = [.reloads]) (.modify (count .reloads)) :=
      .modify fun zone => ⟨_, rfl, .count zone.tally .reloads⟩
    refine counts.bind ?_
    rintro _ _ rfl
    exact .done (by rw [List.append_nil])
  have second : Counts (fun answer more => (outcome.toOption.map Summary.counted).getD [] ++ more =
      (answer.map Summary.counted).getD [] ++ [.reloads]) (reloadTopics outcome) := by
    refine .after reconcileTopics_unmoved fun informed => ?_
    cases informed with
    | ok _ => exact counted
    | error fault => exact .after (fails_unmoved _) fun _ => counted
  cases outcome with
  | ok summary => exact second
  | error fault => exact .after (fails_unmoved _) fun _ => second

/-- A reclaiming counts the clusters that it answers. -/
theorem reclaim_counts : Counts (fun names events => events =
    names.map fun _ => .producersReclaimed) reclaim := by
  have one : ∀ entry, Counts (fun _ events => events = [.producersReclaimed])
      (reclaimOne entry) := by
    refine fun entry => .after (stopProducer_unmoved _ _ _) fun stop => .modify fun zone => ?_
    have reclaimed := Tally.Gains.count (zone.reportStop stop).tally .producersReclaimed
    have both := Tally.Gains.trans (reportStop_unmoved stop zone) reclaimed
    exact ⟨_, rfl, both⟩
  have all : ∀ entries, Counts (fun _ events => events = entries.map fun _ => .producersReclaimed)
      (Program.each reclaimOne entries) := by
    intro entries
    induction entries with
    | nil => exact .done rfl
    | cons entry rest ih =>
      refine (one entry).bind ?_
      rintro _ _ rfl zone
      refine (ih zone).mono ?_
      rintro _ after ⟨_, rfl, gains⟩
      exact ⟨_, rfl, gains⟩
  have inside : Counts (fun due events => events = due.names.map fun _ => .producersReclaimed)
      (bookGate.inside do
        if (← .get).retiring.isEmpty then return .empty
        let now ← readClock
        let due ← .perform (takeDue now)
        Program.each reclaimOne due.entries
        return due) := by
    refine .inside (.after look_unmoved fun zone => ?_) fun _ _ => rfl
    split
    · exact .done rfl
    · refine .after readClock_unmoved fun now => ?_
      refine .after (within_perform.mpr fun _ => .of_tally rfl) fun due => (all due.entries).bind ?_
      rintro _ _ rfl
      exact .done (by rw [List.append_nil, NameTable.names, List.map_map]; rfl)
  refine inside.bind ?_
  rintro due _ rfl
  split
  · rename_i empty
    refine .done ?_
    rw [NameTable.names, List.isEmpty_iff.mp empty]
    rfl
  · exact .after (report_unmoved _) fun _ => .done (List.append_nil _)

theorem reconcileTopicsAlone_counts :
    Counts (fun _ events => events = []) reconcileTopicsAlone :=
  .inside (.of_unmoved reconcileTopics_unmoved) fun _ _ => rfl

end Zone
end ClusterPool
