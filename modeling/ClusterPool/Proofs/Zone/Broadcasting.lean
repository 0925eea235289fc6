import ClusterPool.Proofs.Zone.Ownership

/-! When topics are broadcast. An announcement is compared with all topics that were ever known, and
a broadcast follows unless it is empty or equal to them. So it follows on every new topic, and also
on an announcement that merely leaves some of the known topics out, as often as it is fetched. -/
namespace ClusterPool
open Program

namespace Zone

private theorem broadcasts_iff_other {zone : Zone} {current : NameSet} :
    zone.broadcasts current = true ↔ current ≠ .empty ∧ current ≠ zone.topics := by
  have empty : current.isEmpty = true ↔ current = .empty := by
    rw [NameTable.isEmpty_iff]
    refine ⟨NameTable.eq_empty_of_find?, ?_⟩
    rintro rfl
    exact NameTable.find?_empty
  rw [broadcasts, Bool.not_eq_true', Bool.or_eq_false_iff, decide_eq_false_iff_not,
    ← Bool.not_eq_true, empty, eq_comm (a := zone.topics)]

/-- A broadcast follows on an announcement with a new topic, and on one that leaves known topics out
but not all of them. -/
theorem broadcasts_iff {zone : Zone} {current : NameSet} : zone.broadcasts current = true ↔
    ¬current ⊆ zone.topics ∨
      (current ≠ .empty ∧ current ⊆ zone.topics ∧ current ≠ zone.topics) := by
  rw [broadcasts_iff_other]
  constructor
  · rintro ⟨some, other⟩
    by_cases within : current ⊆ zone.topics
    · exact .inr ⟨some, within, other⟩
    · exact .inl within
  · rintro (new | ⟨some, _, other⟩)
    · constructor
      · rintro rfl
        exact new nofun
      · rintro rfl
        exact new fun _ known => known
    · exact ⟨some, other⟩

/-- After an announcement was taken in, a broadcast follows on the same one if it lacks a topic that
was known before, unless it is empty. -/
theorem Informed.broadcasts_iff {current : NameSet} {before after : Zone}
    (informed : Informed current before after) : after.broadcasts current = true ↔
      current ≠ .empty ∧ ¬before.topics ⊆ current := by
  have whole : current = after.topics ↔ before.topics ⊆ current := by
    rw [← NameSet.union_subset_right_iff, informed.topics]
    exact ⟨fun same name inside => same ▸ inside,
      NameSet.subset_antisymm (NameSet.subset_union_right _ _)⟩
  rw [broadcasts_iff_other, ne_eq current after.topics, whole]

/-- A reconciliation of the topics answers whether it broadcast them. Without a broadcast it only
passes its gate. -/
theorem reconcileTopicsAlone_answers {zone : Zone} (idle : zone.Idle) {inventory : Inventory}
    (fetched : zone.catalog.fetch = .ok inventory) :
    reconcileTopicsAlone.Attains passUntil (fun result after =>
      result = .ok (zone.broadcasts inventory.topics) ∧
      (zone.broadcasts inventory.topics = false →
        after = { zone with reloading := zone.reloading.enter.leave })) zone := by
  refine (Gate.attains_inside reloadGate_lawful idle.reload).mpr
    (attains_bind.mpr (attains_fetch.mpr ?_))
  rw [show (reloadGate.update Turnstile.enter zone).catalog.fetch = .ok inventory from fetched]
  refine attains_bind.mpr (attains_perform.mpr (attains_done.mpr ⟨?_, fun silent => ?_⟩))
  · exact congrArg Except.ok (absorbTopics_informs inventory.topics _).1
  · rw [absorbTopics_silent (by exact silent)]
    rfl

end Zone

namespace Course

/-- Wherever a course has led, a reconciliation of the topics answers whether it broadcast them. It
does so if the announcement has a topic that is not known yet, and also if it is a part of the known
topics, neither none nor all of them. A broadcast has all topics known by then published on every
active producer; without one nothing but the gate is touched. A second reconciliation with the same
announcement broadcasts again if that lacks a topic which was known before the first one, unless it
is empty. -/
theorem topics_broadcast_iff {legs : List Leg} {zone : Zone} (course : Course legs zone)
    {inventory : Inventory} (fetched : zone.catalog.fetch = .ok inventory) :
    ∃ published after,
      Zone.reconcileTopicsAlone.runAlone Zone.passUntil zone = (some (.ok published), after) ∧
      (published = true ↔ ¬inventory.topics ⊆ zone.topics ∨ (inventory.topics ≠ .empty ∧
        inventory.topics ⊆ zone.topics ∧ inventory.topics ≠ zone.topics)) ∧
      after.topics = zone.topics.union inventory.topics ∧
      (published = true → ∀ id, after.fleet.find? id =
        if id ∈ Zone.idsOf zone.active then
          (zone.fleet.find? id).map (zone.fleet.inform after.topics)
        else zone.fleet.find? id) ∧
      (published = false → after = { zone with reloading := zone.reloading.enter.leave }) ∧
      ∃ again later,
        Zone.reconcileTopicsAlone.runAlone Zone.passUntil after = (some (.ok again), later) ∧
        (again = true ↔ inventory.topics ≠ .empty ∧ ¬zone.topics ⊆ inventory.topics) := by
  have idle := course.sound.idle
  have announces : zone.announced = inventory.topics := by rw [Zone.announced, fetched]
  obtain ⟨_, after, ran, ⟨rfl, silent⟩, informed, idleAfter⟩ :=
    (Zone.reconcileTopicsAlone_answers idle fetched).and (Zone.reconcileTopicsAlone_informs idle)
  rw [announces] at informed
  have fetchedAgain : after.catalog.fetch = .ok inventory := by
    obtain ⟨_, _, _, _, _, _, rfl⟩ := informed.rest
    exact fetched
  obtain ⟨_, later, ranAgain, rfl, _⟩ :=
    Zone.reconcileTopicsAlone_answers idleAfter fetchedAgain
  refine ⟨_, after, ran, Zone.broadcasts_iff, informed.topics, fun loud id => ?_, silent, _, later,
    ranAgain, informed.broadcasts_iff⟩
  rw [informed.fleet, informed.topics]
  simp only [loud, true_and]

/-- Two topics become known. -/
def acquaintance : List Leg × Zone :=
  reloads blank [{ clusters := [{ name := "A" }], topics := .ofList ["t", "u"] }]

private theorem acquaintance_course : Course acquaintance.1 acquaintance.2 :=
  of_reloads blank_built rfl _

/-- A third topic is broadcast once with the others. -/
theorem topics_broadcast_iff_of_acquaintance : ∃ after later,
    Zone.reconcileTopicsAlone.runAlone Zone.passUntil
        (acquaintance.2.announce { topics := .ofList ["t", "u", "v"] }) =
      (some (.ok true), after) ∧
    after.topics.names = ["t", "u", "v"] ∧
    (after.fleet.find? 0).map (·.topics.names) = some ["t", "u", "v"] ∧
    Zone.reconcileTopicsAlone.runAlone Zone.passUntil after = (some (.ok false), later) := by
  have told := acquaintance_course.outside
    (Zone.announce_outside { topics := .ofList ["t", "u", "v"] } rfl)
  have fetched : (acquaintance.2.announce { topics := .ofList ["t", "u", "v"] }).catalog.fetch =
      .ok { topics := .ofList ["t", "u", "v"] } := rfl
  obtain ⟨published, after, ran, broadcast, topics, asked, _, again, later, ranAgain, repeated⟩ :=
    told.topics_broadcast_iff fetched
  have loud : published = true := broadcast.mpr (by decide)
  have silent : again = false := Bool.eq_false_iff.mpr fun loud => absurd (repeated.mp loud) (by decide)
  subst loud silent
  refine ⟨after, later, ran, ?_, ?_, ranAgain⟩
  · rw [topics]
    decide
  · rw [asked rfl, topics]
    decide

/-- Of the two, one alone is announced: it is broadcast although it is known. It is not so that a
broadcast follows on new topics only. -/
theorem acquaintance_broadcasts : ¬∀ legs zone, Course legs zone → ∀ inventory published after,
    zone.catalog.fetch = .ok inventory →
      Zone.reconcileTopicsAlone.runAlone Zone.passUntil zone = (some (.ok published), after) →
        (published = true ↔ ¬inventory.topics ⊆ zone.topics) := by
  intro always
  have told := acquaintance_course.outside (Zone.announce_outside { topics := .ofList ["t"] } rfl)
  have fetched : (acquaintance.2.announce { topics := .ofList ["t"] }).catalog.fetch =
      .ok { topics := .ofList ["t"] } := rfl
  obtain ⟨_, after, ran, rfl, _⟩ := Zone.reconcileTopicsAlone_answers told.sound.idle fetched
  have new := (always _ _ told _ _ _ fetched ran).mp (by decide)
  exact new (by decide)

end Course
end ClusterPool
