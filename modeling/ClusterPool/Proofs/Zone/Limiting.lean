import ClusterPool.Proofs.Selection
import ClusterPool.Proofs.Zone.Answers

/-! How many clusters a pool serves that is limited to those of least rank. The limit is one on the
entries of the catalog, and a cluster may have several of them, which all have its rank; only
afterwards are they taken as one cluster. So a pool that has clusters enough may serve fewer than it
is limited to. -/
namespace ClusterPool
open Program

namespace Zone

/-- If no producer fails, everything that was selected is served, each cluster where its name comes
first. -/
private theorem servable_selected {zone : Zone} {clusters : List Cluster}
    (willing : zone.ofOrigin .failed (zone.selected clusters) = []) :
    zone.servable (zone.selected clusters) =
      ((zone.selection.select clusters).map (·.name)).eraseDups := by
  rw [← (Cluster.firstOfEachName_first _).names, servable]
  refine congrArg _ (List.filter_eq_self.mpr fun cluster member => ?_)
  refine decide_eq_true fun failed => ?_
  have absent : cluster.name ∉ zone.ofOrigin .failed (zone.selected clusters) := by simp [willing]
  exact absent (mem_ofOrigin.mpr ⟨List.mem_map_of_mem member, failed⟩)

section
variable {zone : Zone} (idle : zone.Idle) (apart : zone.Apart) {inventory : Inventory}
  (fetched : zone.catalog.fetch = .ok inventory)
include idle apart fetched

/-- A reload in which no producer fails routes to what was selected. -/
theorem reload_routes (selects : zone.selection.select inventory.clusters ≠ []) :
    reload.Attains passUntil (fun answer after => ∃ summary, answer = some summary ∧
      (summary.failed = [] → after.rotation.names =
        ((zone.selection.select inventory.clusters).map (·.name)).eraseDups)) zone := by
  have selection : zone.offered = zone.selected inventory.clusters := by rw [offered, fetched]
  have offers : zone.offered ≠ [] := fun none =>
    selects (selected_eq_nil_iff.mp (selection.symm.trans none))
  refine ((reload_answers idle apart).and (reload_attains idle apart)).mono ?_
  rintro _ after ⟨rfl, ⟨middle, realigned, _, informed⟩, _⟩
  rw [Realigned, if_neg offers] at realigned
  obtain ⟨summary, reconciled⟩ := realigned
  refine ⟨_, by rw [reconciliation_of_offered offers]; rfl, fun willing => ?_⟩
  have routes : after.rotation = middle.rotation := by
    obtain ⟨_, _, _, _, _, _, rfl⟩ := informed.rest
    rfl
  rw [routes, reconciled.routes, selection]
  exact servable_selected (selection ▸ willing)

end

/-- Where no failure is laid on the fleet, a reload reports none. -/
private theorem reload_unfailing {zone : Zone} (idle : zone.Idle) (apart : zone.Apart)
    (willing : ∀ name, zone.fleet.refuses name = false) :
    reload.Attains passUntil (fun answer _ => ∀ summary, answer = some summary →
      summary.failed = []) zone := by
  refine (reload_answers idle apart).mono ?_
  rintro _ after rfl summary answers
  cases fetched : zone.catalog.fetch with
  | error fault =>
    rw [reconciliation, fetched] at answers
    cases answers
  | ok inventory =>
    rw [reconciliation, fetched, Except.map] at answers
    split at answers <;> cases answers
    · rfl
    · refine List.eq_nil_iff_forall_not_mem.mpr fun name failed => ?_
      have refused := (origin_failed_iff.mp (mem_ofOrigin.mp failed).2).2.2
      rw [willing] at refused
      cases refused

/-- A pool that is given no clusters keeps its routes. -/
private theorem reload_keeps {zone : Zone} (idle : zone.Idle) (apart : zone.Apart)
    {inventory : Inventory} (fetched : zone.catalog.fetch = .ok inventory)
    (none : zone.selection.select inventory.clusters = []) :
    reload.Attains passUntil (fun answer after => (∃ summary, answer = some summary) ∧
      after.rotation = zone.rotation) zone := by
  have nothing : zone.offered = [] := by
    rw [offered, fetched]
    exact selected_eq_nil_iff.mpr none
  refine ((reload_answers idle apart).and (reload_attains idle apart)).mono ?_
  rintro _ after ⟨rfl, ⟨middle, realigned, _, informed⟩, _⟩
  rw [Realigned, if_pos nothing] at realigned
  refine ⟨⟨_, by rw [reconciliation, fetched]; rfl⟩, ?_⟩
  obtain ⟨_, _, _, _, rfl⟩ := realigned
  obtain ⟨_, _, _, _, _, _, rfl⟩ := informed.rest
  rfl

end Zone

namespace Selection

/-- The names of the least ranks are those of the clusters that have them. -/
private theorem select_names (identity : String) (atMost : Nat) (clusters : List Cluster) :
    ((ranked identity atMost).select clusters).map (·.name) =
      leastRanked (rank identity) atMost (clusters.map (·.name)) :=
  leastRanked_map (·.name) atMost clusters

private theorem select_eq_nil_iff {identity : String} {atMost : Nat} (room : 0 < atMost)
    {clusters : List Cluster} : (ranked identity atMost).select clusters = [] ↔ clusters = [] := by
  rw [← List.length_eq_zero_iff, ← List.length_eq_zero_iff, select, leastRanked_length]
  omega

end Selection

namespace Course

/-- Wherever a course has led, a pool that is limited to some clusters of least rank comes out of a
reload in which no producer fails with routes to the names whose first entry has fewer than that many
entries before it, each once and in the order of their first entries. They are some, and no more than
the limit or than the names that there are. They are fewer than that exactly if one name is selected
twice and another one not at all, for which a name must repeat. Without any entries, the routes stay
as they are. -/
theorem limited_routes_eq {legs : List Leg} {zone : Zone} (course : Course legs zone) {identity : String}
    {atMost : Nat} (limits : zone.selection = .ranked identity atMost) (room : 0 < atMost)
    {inventory : Inventory} (fetched : zone.catalog.fetch = .ok inventory) :
    let names := inventory.clusters.map (·.name)
    let chosen := (zone.selection.select inventory.clusters).map (·.name)
    ∃ summary after,
      Zone.reload.runAlone Zone.passUntil zone = (some (some summary), after) ∧
      (names = [] → after.rotation = zone.rotation) ∧
      (names ≠ [] → summary.failed = [] →
        after.rotation.names = (names.eraseDups.filter fun name =>
          Selection.leaders (Selection.rank identity) names (name, names.idxOf name) < atMost) ∧
        0 < after.rotation.names.length ∧
        after.rotation.names.length ≤ min atMost names.eraseDups.length ∧
        (after.rotation.names.length = min atMost names.eraseDups.length ↔
          chosen.Nodup ∨ ∀ name ∈ names, name ∈ chosen) ∧
        (names.Nodup → after.rotation.names.length = min atMost names.length)) := by
  intro names chosen
  have idle := course.sound.idle
  have apart := course.sound.apart
  have ranked : chosen = Selection.leastRanked (Selection.rank identity) atMost names := by
    rw [← Selection.select_names, ← limits]
  by_cases none : inventory.clusters = []
  · have selects : zone.selection.select inventory.clusters = [] := by
      rw [limits, Selection.select_eq_nil_iff room, none]
    obtain ⟨_, after, ran, ⟨summary, rfl⟩, same⟩ := Zone.reload_keeps idle apart fetched selects
    exact ⟨summary, after, ran, fun _ => same, fun others =>
      absurd (List.map_eq_nil_iff.mpr none) others⟩
  · have selects : zone.selection.select inventory.clusters ≠ [] := by
      rw [limits, ne_eq, Selection.select_eq_nil_iff room]
      exact none
    obtain ⟨_, after, ran, summary, rfl, routes⟩ := Zone.reload_routes idle apart fetched selects
    refine ⟨summary, after, ran, fun others => absurd (List.map_eq_nil_iff.mp others) none,
      fun _ willing => ?_⟩
    have routed : after.rotation.names = chosen.eraseDups := routes willing
    obtain ⟨most, exactly⟩ := @Selection.leastRanked_kinds _ (Selection.rank identity)
      _ atMost names
    rw [← ranked] at most exactly
    rw [routed]
    refine ⟨ranked ▸ Selection.leastRanked_eraseDups atMost names, ?_, most, exactly, fun once => ?_⟩
    · obtain ⟨cluster, member⟩ := List.exists_mem_of_ne_nil _ selects
      exact List.length_pos_of_mem (List.mem_eraseDups.mpr (List.mem_map_of_mem member))
    · rw [ranked]
      exact Selection.leastRanked_kinds_of_nodup atMost once

/-- A zone of at most two clusters, which knows of none yet. -/
def pair : Zone := { blank with selection := .ranked "z" 2 }

/-- Two clusters that have two entries each. -/
def twins : Inventory where
  clusters := [{ name := "A" }, { name := "A" }, { name := "B" }, { name := "B" }]

private theorem pair_course : Course [] pair := by
  have built : Zone.build { selection := .ranked "z" 2, catalog := some (.inMemory [] .empty) } =
      .ok pair := rfl
  exact .begin built rfl

private theorem pair_unfailing (inventory : Inventory) :
    Zone.reload.Attains Zone.passUntil (fun answer _ => ∀ summary, answer = some summary →
      summary.failed = []) (pair.announce inventory) := by
  have told := pair_course.outside (Zone.announce_outside inventory rfl)
  exact Zone.reload_unfailing told.sound.idle told.sound.apart fun _ => rfl

/-- Of three clusters with an entry each, the pair serves two. -/
theorem limited_routes_eq_of_pair : ∃ summary after, Zone.reload.runAlone Zone.passUntil
    (pair.announce { clusters := [{ name := "A" }, { name := "B" }, { name := "C" }] }) =
      (some (some summary), after) ∧ after.rotation.names.length = 2 := by
  have told := pair_course.outside (Zone.announce_outside
    { clusters := [{ name := "A" }, { name := "B" }, { name := "C" }] } rfl)
  obtain ⟨summary, after, ran, _, routes⟩ := told.limited_routes_eq rfl (by decide) rfl
  have willing := (pair_unfailing _).of_ran ran summary rfl
  exact ⟨summary, after, ran, (routes (by simp) willing).2.2.2.2 (by decide)⟩

/-- Of the twins it serves one. It is not so that a pool serves as many clusters as it is limited to
or as there are. -/
theorem twins_fall_short : ¬∀ legs zone, Course legs zone → ∀ identity atMost inventory,
    zone.selection = .ranked identity atMost → 0 < atMost →
      zone.catalog.fetch = .ok inventory → ∀ summary after,
        Zone.reload.runAlone Zone.passUntil zone = (some (some summary), after) →
          summary.failed = [] → after.rotation.names.length =
            min atMost (inventory.clusters.map (·.name)).eraseDups.length := by
  intro always
  have told := pair_course.outside (Zone.announce_outside twins rfl)
  have selects : (Selection.ranked "z" 2).select twins.clusters ≠ [] := by
    rw [ne_eq, Selection.select_eq_nil_iff (by decide)]
    decide
  have fetched : (pair.announce twins).catalog.fetch = .ok twins := rfl
  obtain ⟨_, after, ran, summary, rfl, routes⟩ :=
    Zone.reload_routes told.sound.idle told.sound.apart fetched selects
  have willing := (pair_unfailing twins).of_ran ran summary rfl
  have short : (((Selection.ranked "z" 2).select twins.clusters).map (·.name)).eraseDups.length =
      1 := by
    rw [Selection.select_names, Selection.leastRanked_eraseDups]
    decide +kernel
  have full := always _ _ told "z" 2 twins rfl (by decide) rfl summary after ran willing
  have served : after.rotation.names.length = 1 := (congrArg _ (routes willing)).trans short
  rw [served] at full
  exact absurd full (by decide)

end Course
end ClusterPool
