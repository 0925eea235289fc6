import ClusterPool.Proofs.Program.Outcome
import ClusterPool.Proofs.Zone.Answers
import ClusterPool.Proofs.Zone.Moments

/-! What a pool reports of a reconciliation of its clusters. Whatever else it reports on the way, it
closes with exactly one note, and from the summary alone one can tell with which. The same moment
makes the backend ready, if it is not and anything has changed. -/
namespace ClusterPool
open Program

/-- The event closes the report of a reconciliation of the clusters. -/
def Event.concludes : Event → Bool
  | .nothingChanged | .changeFailed _ | .changed .. => true
  | _ => false

/-- What the report of a reconciliation closes with, by whether the backend was known to be ready. -/
def Summary.conclusion (ready : Bool) (summary : Summary) : Event :=
  if summary.changed then .changed summary !ready
  else if summary.failed.isEmpty then .nothingChanged
  else .changeFailed summary

theorem Summary.conclusion_concludes (ready : Bool) (summary : Summary) :
    (summary.conclusion ready).concludes = true := by
  unfold conclusion
  split
  · rfl
  · split <;> rfl

namespace Note

/-- The message ends with the announcement that the backend is ready from now on. -/
def Announces (note : Note) : Prop :=
  ∃ text, note.message = text ++ ", and updated sink status"

/-- A closing note announces it exactly if it says so, whatever the names of the clusters are. -/
theorem announces_iff {note : Note} (concludes : note.event.concludes = true) :
    note.Announces ↔ ∃ summary, note.event = .changed summary true := by
  obtain ⟨pool, event⟩ := note
  -- A text with another last letter does not end with the announcement.
  have otherwise : ∀ (text : String) (last : Char), last ≠ 's' → text.toList.getLast? = some last →
      ∀ head, text ≠ head ++ ", and updated sink status" := by
    rintro text last other ends head rfl
    simp [String.toList_append, List.getLast?_append, other.symm] at ends
  have described : ∀ (summary : Summary) head,
      summary.describe ≠ head ++ ", and updated sink status" := by
    intro summary
    obtain ⟨line, ends⟩ := summary.describe_ends
    exact otherwise _ ']' (by decide) (by simp [ends, String.toList_append, List.getLast?_append])
  constructor
  · rintro ⟨head, same⟩
    cases event with
    | nothingChanged =>
      exact absurd same (otherwise "Reload cluster info, nothing changed" 'd' (by decide)
        (by decide) head)
    | changeFailed summary => exact absurd same (described summary head)
    | changed summary announces =>
      cases announces with
      | true => exact ⟨summary, rfl⟩
      | false => exact absurd same (described summary head)
    | _ => cases concludes
  · rintro ⟨summary, rfl⟩
    exact ⟨_, rfl⟩

/-- The announcement is made together with a change, and only while the backend is not ready. -/
theorem announces_conclusion_iff {pool : String} {ready : Bool} {summary : Summary} :
    (Note.mk pool (summary.conclusion ready)).Announces ↔
      summary.changed = true ∧ ready = false := by
  rw [announces_iff (summary.conclusion_concludes ready)]
  cases changed : summary.changed <;> cases failed : summary.failed.isEmpty <;> cases ready <;>
    simp [Summary.conclusion, changed, failed]

/-- A closing note informs of a change, warns of a failure that is all there was, and else is for
those who look for it. -/
theorem level_conclusion (pool : String) (ready : Bool) (summary : Summary) :
    (Note.mk pool (summary.conclusion ready)).level =
      if summary.changed = true then .info else if summary.failed ≠ [] then .warn else .debug := by
  cases changed : summary.changed <;> cases failed : summary.failed <;>
    simp [Summary.conclusion, changed, failed, level]

end Note

namespace Zone

/-- The zone has closed a report of this outcome, or of none, and the backend is ready if it was
before or if the outcome is a change. -/
structure Concluded (verdict : Option Summary) (before after : Zone) : Prop where
  name : after.name = before.name
  ready : after.catalog.ready = (before.catalog.ready || verdict.any Summary.changed)
  notes : ∃ notes, after.journal = notes ++ before.journal ∧
    notes.filter (·.event.concludes) = verdict.toList.map fun summary =>
      ⟨before.name, summary.conclusion before.catalog.ready⟩

/-- No report was closed. -/
def Muted : Zone → Zone → Prop := Concluded none

namespace Muted

theorem silent {before after : Zone} (name : after.name = before.name)
    (ready : after.catalog.ready = before.catalog.ready)
    (journal : after.journal = before.journal) : Muted before after :=
  ⟨name, by simp [ready], [], journal, rfl⟩

theorem noted {before after : Zone} {note : Note} (name : after.name = before.name)
    (ready : after.catalog.ready = before.catalog.ready)
    (journal : after.journal = note :: before.journal)
    (open_ : note.event.concludes = false) : Muted before after :=
  ⟨name, by simp [ready], [note], journal, by simp [open_]⟩

theorem refl (zone : Zone) : Muted zone zone := silent rfl rfl rfl

theorem concluded {verdict : Option Summary} {first second third : Zone}
    (early : Muted first second) (late : Concluded verdict second third) :
    Concluded verdict first third := by
  have ready : second.catalog.ready = first.catalog.ready := by simpa using early.ready
  obtain ⟨former, earlier, none⟩ := early.notes
  obtain ⟨notes, later, closing⟩ := late.notes
  refine ⟨late.name.trans early.name, ready ▸ late.ready, notes ++ former, ?_, ?_⟩
  · rw [later, earlier, List.append_assoc]
  · rw [List.filter_append, none, closing, early.name, ready]
    exact List.append_nil _

end Muted

theorem Concluded.muted {verdict : Option Summary} {first second third : Zone}
    (early : Concluded verdict first second) (late : Muted second third) :
    Concluded verdict first third := by
  have ready : third.catalog.ready = second.catalog.ready := by simpa using late.ready
  obtain ⟨former, earlier, closing⟩ := early.notes
  obtain ⟨notes, later, none⟩ := late.notes
  refine ⟨late.name.trans early.name, ready.trans early.ready, notes ++ former, ?_, ?_⟩
  · rw [later, earlier, List.append_assoc]
  · rw [List.filter_append, none, closing]
    rfl

theorem Muted.trans {first second third : Zone} (early : Muted first second)
    (late : Muted second third) : Muted first third := Concluded.muted early late

/-- What is reported in closing of a summary. -/
theorem conclude_concludes (summary : Summary) (zone : Zone) :
    Concluded (some summary) zone (conclude summary zone) := by
  have closing := summary.conclusion_concludes zone.catalog.ready
  have reported : (conclude summary zone).journal =
      ⟨zone.name, summary.conclusion zone.catalog.ready⟩ :: zone.journal := by
    unfold conclude Summary.conclusion
    split
    · split <;> rename_i known <;> simp [known, report]
    · split <;> rfl
  refine ⟨?_, ?_, [_], reported, by simp [closing]⟩
  · unfold conclude
    split
    · split <;> rfl
    · split <;> rfl
  · unfold conclude
    split
    · rename_i changed
      split <;> rename_i known <;> simp [changed, known, report, Catalog.markReady]
    · rename_i same
      split <;> simp [same, report]

section
variable {topics : NameSet} {cluster : Cluster} {id : ProducerId}

private theorem request_muted (cluster : Cluster) (zone : Zone) :
    Muted zone (request cluster zone).2 := .silent rfl rfl rfl

private theorem finishStart_muted (id : ProducerId) (zone : Zone) :
    Muted zone (finishStart id zone).2 := by
  unfold finishStart withFleet
  dsimp only
  split
  · exact .noted rfl rfl rfl rfl
  · exact .silent rfl rfl rfl

private theorem publishFirst_muted (topics : NameSet) (cluster : Cluster) (id : ProducerId)
    (zone : Zone) : Muted zone (publishFirst topics cluster id zone) := by
  unfold publishFirst withFleet
  dsimp only
  split
  · exact .refl zone
  · split
    · exact .silent rfl rfl rfl
    · exact .noted rfl rfl rfl rfl

private theorem reportStop_muted (stop : StopReport) (zone : Zone) :
    Muted zone (zone.reportStop stop) := by
  unfold reportStop
  split <;> exact .noted rfl rfl rfl rfl

private theorem publishTopics_muted (zone : Zone) (entry : String × Slot) :
    Muted zone (publishTopics zone entry) := by
  unfold publishTopics withFleet
  dsimp only
  split
  · exact .silent rfl rfl rfl
  · exact .noted rfl rfl rfl rfl

private theorem absorbTopics_muted (current : NameSet) (zone : Zone) :
    Muted zone (absorbTopics current zone).2 := by
  have publishAll : ∀ (entries : List (String × Slot)) (zone : Zone),
      Muted zone (entries.foldl publishTopics zone) := by
    intro entries
    induction entries with
    | nil => exact .refl
    | cons entry rest ih => exact fun zone => (publishTopics_muted zone entry).trans (ih _)
  unfold absorbTopics
  split
  · exact .refl zone
  · have reported : Muted zone { zone.report (.topicsChanged current zone.topics) with
        topics := zone.topics.union current } := .noted rfl rfl rfl rfl
    exact reported.trans (publishAll _ _)

private theorem createAll_muted (topics : NameSet) (creation : Creation) (missing : List Cluster) :
    (createAll topics creation missing).Within Muted := by
  refine createAll_within .refl (fun cluster => ?_) (fun cluster id now zone => ?_)
    (fun cluster id => stopProducer_within .refl (fun _ => .silent rfl rfl rfl) cluster .duplicate)
    (fun _ _ => .noted rfl rfl rfl rfl) reportStop_muted (fun _ _ _ => .noted rfl rfl rfl rfl)
    creation missing
  · refine createProducer_within (request_muted cluster) (fun id => ?_) fun id zone => ?_
    · exact startProducer_within .refl (fun _ => .silent rfl rfl rfl) (finishStart_muted id)
    · exact (publishFirst_muted topics cluster id zone).trans (.noted rfl rfl rfl rfl)
  · unfold activate
    split <;> exact .silent rfl rfl rfl

private theorem reconcileTopics_muted : reconcileTopics.Within Muted :=
  reconcileTopics_within .refl absorbTopics_muted

private theorem passUntil_muted (moment : Nat) (zone : Zone) : Muted zone (passUntil moment zone) :=
  .silent rfl rfl rfl

/-- Work that goes on after a part by which no report is closed. -/
private theorem ensures_after_muted {work : Program Zone α} {next : α → Program Zone β}
    {goal : β → Zone → Prop} {zone : Zone} (within : work.Within Muted)
    (goes : ∀ value middle, Muted zone middle → (next value).Ensures passUntil goal middle) :
    (work.bind next).Ensures passUntil goal zone := by
  have muted := within.ensures Muted.refl Muted.trans passUntil_muted zone
  exact Ensures.bind (muted.mono goes)

private theorem inside_muted {work : Program Zone α} (within : work.Within Muted) :
    (bookGate.inside work).Within Muted :=
  within.inside .refl (fun _ => .silent rfl rfl rfl) fun _ => .silent rfl rfl rfl

private theorem adopt_concludes {order : List Cluster} (once : (order.map (·.name)).Nodup)
    (zone : Zone) : (adopt order).Ensures passUntil
      (fun summary after => Concluded (some summary) zone after) zone := by
  have divides : ∀ now zone, Muted zone (divide now order zone).2 := by
    intro now zone
    obtain ⟨_, _, _, rest⟩ := (divide_divides now once zone).rest
    rw [rest]
    exact .silent rfl rfl rfl
  refine ensures_after_muted (inside_muted ((readClock_within .refl).bind fun now =>
    within_perform.mpr (divides now))) fun division divided sorted => ?_
  refine Ensures.bind (ensures_get.mpr ?_)
  refine ensures_after_muted (createAll_muted divided.topics {} division.missing)
    fun creation staffed created => ?_
  refine Ensures.bind (ensures_get.mpr (Ensures.bind (ensures_perform.mpr ?_)))
  have published : Muted staffed (publishRoutes (activeAmong order staffed) staffed).2 :=
    .silent rfl rfl rfl
  refine ensures_after_muted (inside_muted ((readClock_within .refl).bind fun now =>
    within_perform.mpr fun _ => .silent rfl rfl rfl)) fun removed retired retires => ?_
  refine Ensures.bind (ensures_get.mpr (Ensures.bind (ensures_modify.mpr (ensures_done.mpr ?_))))
  exact (((sorted.trans created).trans published).trans retires).concluded
    (conclude_concludes _ retired)

end

/-- What a reconciliation of the clusters closes its report with, where clusters are offered. -/
def verdict (zone : Zone) : Option Summary :=
  if zone.offered = [] then none else some (zone.summaryOf zone.offered)

theorem reconcileClusters_concludes (zone : Zone) (apart : zone.Apart)
    (free : zone.bookkeeping.isFree = true) (readable : zone.clock.broken = false) :
    reconcileClusters.Ensures passUntil (fun _ after => Concluded zone.verdict zone after)
      zone := by
  cases fetched : zone.catalog.fetch with
  | error fault =>
    have nothing : zone.verdict = none := by simp [verdict, offered, fetched]
    refine Ensures.bind (attains_fetch.mpr ?_).ensures
    rw [fetched, nothing]
    exact ensures_done.mpr (Muted.refl zone)
  | ok inventory =>
    have offers : zone.offered = zone.selected inventory.clusters := by rw [offered, fetched]
    refine Ensures.bind (attains_fetch.mpr ?_).ensures
    rw [fetched]
    refine Ensures.bind (ensures_get.mpr ?_)
    by_cases none : zone.selection.select inventory.clusters = []
    · have nothing : zone.verdict = Option.none := by
        rw [verdict, offers, if_pos (selected_eq_nil_iff.mpr none)]
      simp only [none, List.isEmpty_nil, ↓reduceIte, nothing]
      exact Ensures.bind (ensures_modify.mpr (ensures_done.mpr (Muted.noted rfl rfl rfl rfl)))
    · have some : zone.verdict = Option.some (zone.summaryOf zone.offered) := by
        rw [verdict, offers, if_neg (mt selected_eq_nil_iff.mp none)]
      have once := (Cluster.firstOfEachName_first (zone.selection.select inventory.clusters)).once
      have reconciles := (adopt_attains once apart free readable).ensures
      simp only [List.isEmpty_iff, if_neg none, some, offers]
      refine Ensures.bind fun summary after ran => ensures_done.mpr ?_
      obtain ⟨reconciled, _, _⟩ := reconciles summary after ran
      have told : summary = zone.summaryOf (zone.selected inventory.clusters) := reconciled.summary
      exact told ▸ adopt_concludes once zone summary after ran

/-- Behind the reload gate the zone is the same, but for the gate. -/
private theorem insideReload_concludes {work : Program Zone α} {verdict : Option Summary}
    {zone : Zone} (idle : zone.Idle)
    (concludes : work.Ensures passUntil
      (fun _ after => Concluded verdict (reloadGate.update Turnstile.enter zone) after)
      (reloadGate.update Turnstile.enter zone)) :
    (reloadGate.inside work).Ensures passUntil (fun _ after => Concluded verdict zone after)
      zone := by
  have enters : Muted zone (reloadGate.update Turnstile.enter zone) := .silent rfl rfl rfl
  have leaves : ∀ zone, Muted zone (reloadGate.leave zone) := fun _ => .silent rfl rfl rfl
  refine Gate.ensures_inside reloadGate_lawful idle.reload (concludes.mono ?_)
  exact fun _ after concluded => (enters.concluded concluded).muted (leaves after)

theorem reconcileClustersAlone_concludes {zone : Zone} (idle : zone.Idle) (apart : zone.Apart) :
    reconcileClustersAlone.Ensures passUntil (fun _ after => Concluded zone.verdict zone after)
      zone :=
  insideReload_concludes idle
    (reconcileClusters_concludes (reloadGate.update Turnstile.enter zone) apart idle.book
      idle.readable)

theorem reload_concludes {zone : Zone} (idle : zone.Idle) (apart : zone.Apart) :
    reload.Ensures passUntil (fun _ after => Concluded zone.verdict zone after) zone := by
  refine insideReload_concludes idle (Ensures.bind ((reconcileClusters_concludes
    (reloadGate.update Turnstile.enter zone) apart idle.book idle.readable).mono ?_))
  intro outcome middle concluded
  have later := (afterClusters_within reconcileTopics_muted (fun _ => .silent rfl rfl rfl)
    (fun _ _ => .noted rfl rfl rfl rfl) (fun _ _ => .noted rfl rfl rfl rfl) outcome).ensures
      Muted.refl Muted.trans passUntil_muted middle
  exact later.mono fun _ _ muted => concluded.muted muted

end Zone

/-- An errand that reconciles the clusters closes its report with what becomes of them. -/
theorem Errand.concludes {errand : Errand} (realigns : errand.realigns = true) {zone : Zone}
    (idle : zone.Idle) (apart : zone.Apart) :
    errand.work.Ensures Zone.passUntil (fun _ after => Zone.Concluded zone.verdict zone after)
      zone := by
  cases errand with
  | reload =>
    exact Ensures.bind ((Zone.reload_concludes idle apart).mono fun _ _ concluded =>
      ensures_done.mpr concluded)
  | reconcileClusters =>
    exact Ensures.bind ((Zone.reconcileClustersAlone_concludes idle apart).mono
      fun _ _ concluded => ensures_done.mpr concluded)
  | reconcileTopics | reclaim | dispatch | close => cases realigns

end ClusterPool
