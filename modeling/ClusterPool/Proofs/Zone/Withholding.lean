import ClusterPool.Proofs.Zone.Answers

/-! What a pool does while its catalog withholds from it what it asks for. A reload whose fetches
fail counts and reports its failures, and touches nothing else. A reload to which clusters are given
of which none is selected goes on with the clusters that it has, and with the topics that it is
given. -/
namespace ClusterPool
open Program

namespace Catalog

/-- The bytes of a file are the text of a document that announces something. -/
def Legible (bytes : ByteArray) : Prop :=
  ∃ text inventory, String.fromUTF8? bytes = some text ∧
    Document.decode Inventory text = .ok inventory

/-- Nothing can be fetched: the owner of a catalog in memory lets it fail, or there is no file, or a
directory in its place, or the file is no document that announces anything. -/
def Withholds (catalog : Catalog) : Prop :=
  match catalog.kind with
  | .memory _ failing => failing = true
  | .file .nothing | .file .directory => True
  | .file (.content bytes) => ¬Legible bytes

/-- A fetch fails exactly from a catalog that withholds. -/
theorem withholds_iff {catalog : Catalog} :
    catalog.Withholds ↔ ∃ fault, catalog.fetch = .error fault := by
  obtain ⟨kind, ready⟩ := catalog
  cases kind with
  | memory inventory failing => cases failing <;> simp [Withholds, fetch]
  | file stored =>
    cases stored with
    | nothing => exact iff_of_true trivial ⟨_, rfl⟩
    | directory => exact iff_of_true trivial ⟨_, rfl⟩
    | content bytes =>
      cases read : String.fromUTF8? bytes with
      | none =>
        have illegible : ¬Legible bytes := fun ⟨_, _, found, _⟩ => by simp [read] at found
        have fetched : fetch ⟨.file (.content bytes), ready⟩ =
            (text (.content bytes)).map fun _ => {} := by
          simp only [fetch, text, read]
          rfl
        rw [fetched, text, read]
        exact iff_of_true illegible ⟨_, rfl⟩
      | some found =>
        cases decoded : Document.decode Inventory found with
        | ok inventory =>
          have fetched : fetch ⟨.file (.content bytes), ready⟩ = .ok inventory := by
            simp only [fetch, text, read, Bind.bind, Except.bind, decoded]
          rw [fetched]
          exact iff_of_false (fun illegible => illegible ⟨found, inventory, read, decoded⟩) nofun
        | error mistake =>
          have fetched : fetch ⟨.file (.content bytes), ready⟩ = .error (.document mistake) := by
            simp only [fetch, text, read, Bind.bind, Except.bind, decoded]
          have illegible : ¬Legible bytes := by
            rintro ⟨_, _, same, legible⟩
            cases read.symm.trans same
            rw [decoded] at legible
            cases legible
          rw [fetched]
          exact iff_of_true illegible ⟨_, rfl⟩

end Catalog

/-- Two failures are counted, and a reload. -/
private theorem Tally.count_rebuff (tally : Tally) :
    ((tally.count .reloadFailures).count .reloadFailures).count .reloads = { tally with
      reloads := tally.reloads + 1
      reloadFailures := tally.reloadFailures + 2 } := by
  simp [Tally.count, Tally.set, Tally.get, UInt64.add_assoc]

namespace Zone

/-- The same zone after a reload that was given nothing. -/
def rebuffed (fault : Fault) (zone : Zone) : Zone :=
  { zone with
    tally := { zone.tally with
      reloads := zone.tally.reloads + 1
      reloadFailures := zone.tally.reloadFailures + 2 }
    journal := ⟨zone.name, .topicReloadFailed fault⟩ ::
      ⟨zone.name, .clusterReloadFailed fault⟩ :: zone.journal
    reloading := zone.reloading.enter.leave }

/-- Where nothing can be fetched, a reconciliation of the clusters answers the fault. -/
private theorem reconcileClusters_withheld {zone : Zone} {fault : Fault}
    (failed : zone.catalog.fetch = .error fault) :
    reconcileClusters.Attains passUntil
      (fun result after => result = .error fault ∧ after = zone) zone := by
  refine attains_bind.mpr (attains_fetch.mpr ?_)
  rw [failed]
  exact attains_done.mpr ⟨rfl, rfl⟩

/-- Where nothing can be fetched, a reconciliation of the topics answers the fault. -/
private theorem reconcileTopics_withheld {zone : Zone} {fault : Fault}
    (failed : zone.catalog.fetch = .error fault) :
    reconcileTopics.Attains passUntil
      (fun result after => result = .error fault ∧ after = zone) zone := by
  refine attains_bind.mpr (attains_fetch.mpr ?_)
  rw [failed]
  exact attains_done.mpr ⟨rfl, rfl⟩

/-- A reload that is given nothing answers nothing. -/
theorem reload_withheld {zone : Zone} (free : zone.reloading.isFree = true) {fault : Fault}
    (failed : zone.catalog.fetch = .error fault) :
    reload.Attains passUntil (fun answer after => answer = none ∧ after = zone.rebuffed fault)
      zone := by
  refine (Gate.attains_inside reloadGate_lawful free).mpr
    (attains_bind.mpr ((reconcileClusters_withheld (by exact failed)).mono ?_))
  rintro outcome _ ⟨rfl, rfl⟩
  refine attains_bind.mpr (attains_modify.mpr
    (attains_bind.mpr ((reconcileTopics_withheld (by exact failed)).mono ?_)))
  rintro informed _ ⟨rfl, rfl⟩
  refine attains_bind.mpr (attains_modify.mpr (attains_bind.mpr (attains_modify.mpr
    (attains_done.mpr ⟨rfl, ?_⟩))))
  simp only [rebuffed, ← Tally.count_rebuff, reloadFailed, count, report, Gate.leave, reloadGate]

/-- The same zone after a reconciliation of the clusters for which none was selected. -/
def unselected (zone : Zone) : Zone :=
  { zone with
    journal := ⟨zone.name, .selectionEmpty⟩ :: zone.journal
    reloading := zone.reloading.enter.leave }

section
variable {zone : Zone} (idle : zone.Idle) (apart : zone.Apart) {inventory : Inventory}
  (fetched : zone.catalog.fetch = .ok inventory)
  (none : zone.selection.select inventory.clusters = [])
include idle apart fetched none

/-- Where no cluster is selected, a reconciliation of the clusters reports that. -/
theorem reconcileClustersAlone_unselected :
    reconcileClustersAlone.Attains passUntil
      (fun result after => result = .ok { pool := zone.name } ∧ after = zone.unselected) zone := by
  have entered := reconcileClusters_attains (reloadGate.update Turnstile.enter zone) fetched
    apart idle.book idle.readable
  refine (Gate.attains_inside reloadGate_lawful idle.reload).mpr (entered.mono ?_)
  rintro result after ⟨summary, rfl, _, _, outcome⟩
  rw [if_pos (by exact none)] at outcome
  obtain ⟨rfl, rfl⟩ := outcome
  exact ⟨rfl, rfl⟩

/-- Where no cluster is selected, a reload goes on to the topics. -/
theorem reload_unselected :
    reload.Attains passUntil
      (fun answer after => answer = some { pool := zone.name } ∧
        Informed inventory.topics zone after) zone := by
  have nothing : zone.offered = [] := by
    rw [offered, fetched]
    exact selected_eq_nil_iff.mpr none
  have answers : zone.reconciliation = .ok { pool := zone.name } := by
    rw [reconciliation, fetched, Except.map, if_pos none]
  have announces : zone.announced = inventory.topics := by rw [announced, fetched]
  refine ((reload_answers idle apart).and (reload_attains idle apart)).mono ?_
  rintro _ after ⟨rfl, ⟨middle, realigned, _, informed⟩, _⟩
  rw [Realigned, if_pos nothing] at realigned
  have same : middle.announced = zone.announced := by
    obtain ⟨_, _, _, _, rfl⟩ := realigned
    rfl
  rw [same, announces] at informed
  exact ⟨by rw [answers]; rfl, realigned.informed informed (.refl after)⟩

end

end Zone

namespace Course

/-- Wherever a course has led: a reload that can fetch nothing answers nothing, and leaves the zone
as it was but for what it counted and reported. If clusters are fetched and none of them is selected,
a reconciliation of the clusters answers a summary without any change and leaves the zone as it was
but for its report; and a reload goes on to the topics that were fetched. -/
theorem failed_reload_rebuffed {legs : List Leg} {zone : Zone} (course : Course legs zone) :
    (zone.catalog.Withholds → ∃ fault, zone.catalog.fetch = .error fault ∧
      Zone.reload.runAlone Zone.passUntil zone = (some none, zone.rebuffed fault)) ∧
    ∀ inventory, zone.catalog.fetch = .ok inventory →
      zone.selection.select inventory.clusters = [] →
        ∃ summary, summary.changed = false ∧
          Zone.reconcileClustersAlone.runAlone Zone.passUntil zone =
            (some (.ok summary), zone.unselected) ∧
          ∃ after, Zone.reload.runAlone Zone.passUntil zone = (some (some summary), after) ∧
            Zone.Informed inventory.topics zone after := by
  have idle := course.sound.idle
  have apart := course.sound.apart
  constructor
  · intro withholds
    obtain ⟨fault, failed⟩ := Catalog.withholds_iff.mp withholds
    obtain ⟨_, _, ran, rfl, rfl⟩ := Zone.reload_withheld idle.reload failed
    exact ⟨fault, failed, ran⟩
  · intro inventory fetched none
    obtain ⟨_, _, alone, rfl, rfl⟩ :=
      Zone.reconcileClustersAlone_unselected idle apart fetched none
    obtain ⟨_, after, ran, rfl, informed⟩ := Zone.reload_unselected idle apart fetched none
    exact ⟨_, rfl, alone, after, ran, informed⟩

/-- The clusters of this document are in order, and its topics are not. -/
def misprint : ByteArray :=
  "\x7b\"clusters\":[\x7b\"cluster_name\":\"A\",\"url\":\"\"\x7d],\"topics\":[5]\x7d".toUTF8

/-- A zone in which clusters come and go is misled by the misprint, or is given topics alone. -/
theorem failed_reload_rebuffed_of_absence :
    (let misled := { absence.2 with catalog := { kind := .file (.content misprint), ready := true } }
      ∃ fault, Zone.reload.runAlone Zone.passUntil misled = (some none, misled.rebuffed fault)) ∧
    ∃ summary after, Zone.reload.runAlone Zone.passUntil
        (absence.2.announce { topics := .ofList ["v"] }) = (some (some summary), after) ∧
      summary.changed = false ∧
      after.rotation.names = ["A", "B"] ∧ after.topics.names = ["t", "u", "v"] := by
  constructor
  · have misled : Course absence.1 { absence.2 with
        catalog := { kind := .file (.content misprint), ready := true } } :=
      absence_course.outside (.of_producers ⟨_, _, _, rfl⟩ rfl rfl)
    have illegible : ¬Catalog.Legible misprint := by
      rintro ⟨text, inventory, read, decoded⟩
      have undecoded : (String.fromUTF8? misprint).all
          fun text => !(Document.decode Inventory text).toBool := by decide +kernel
      rw [read, Option.all_some, decoded] at undecoded
      cases undecoded
    obtain ⟨fault, _, ran⟩ := misled.failed_reload_rebuffed.1 illegible
    exact ⟨fault, ran⟩
  · have told := absence_course.outside (Zone.announce_outside { topics := .ofList ["v"] } rfl)
    obtain ⟨summary, same, _, after, ran, informed⟩ :=
      told.failed_reload_rebuffed.2 { topics := .ofList ["v"] } rfl rfl
    have routes : after.rotation = absence.2.rotation := by
      obtain ⟨_, _, _, _, _, _, rfl⟩ := informed.rest
      rfl
    refine ⟨summary, after, ran, same, ?_, ?_⟩
    · rw [routes]
      decide
    · rw [informed.topics]
      decide

end Course
end ClusterPool
