import ClusterPool.Proofs.Zone.Ownership

/-! Which topics a pool knows. Between two closings nothing that the catalog has given is forgotten
and nothing else is added, although most announcements are not even looked at: those that are empty,
those that are known already and those that fail. What is published on a producer is known. -/
namespace ClusterPool

def Errand.isClose : Errand → Bool
  | close => true
  | _ => false

/-- The topics that the catalog gave when the errand of a leg asked for them. -/
def Leg.observed (leg : Leg) : Option NameSet :=
  match leg.errand with
  | .reload | .reconcileTopics => leg.before.catalog.fetch.toOption.map Inventory.topics
  | _ => none

/-- The legs since a pool was built or last closed. -/
def Course.sinceClose (legs : List Leg) : List Leg := legs.takeWhile fun leg => !leg.errand.isClose

/-- A set in this list has the topic. -/
def Mentioned (sets : List NameSet) (topic : String) : Prop :=
  ∃ topics ∈ sets, topics.contains topic = true

/-- No closing has found the producer. -/
def BuiltSince (legs : List Leg) (id : ProducerId) : Prop :=
  ∀ leg ∈ legs, leg.errand = .close → leg.after.fleet.find? id = none

namespace Zone

theorem announced_eq (zone : Zone) :
    zone.announced = (zone.catalog.fetch.toOption.map Inventory.topics).getD .empty := by
  unfold announced
  split
  · rename_i fetched
    rw [fetched]
    rfl
  · rename_i fetched
    rw [fetched]
    rfl

/-- Every topic of a producer was published on it before, or is known now. -/
def Publishes (before after : Zone) : Prop :=
  ∀ id producer, after.fleet.find? id = some producer → ∀ topic,
    producer.topics.contains topic = true → after.topics.contains topic = true ∨
      ∃ former, before.fleet.find? id = some former ∧ former.topics.contains topic = true

/-- Producers that keep their topics publish nothing. -/
theorem Publishes.of_alike {before after : Zone}
    (alike : Fleet.Alike Producer.topics before.fleet after.fleet) : Publishes before after := by
  intro id producer found topic published
  obtain ⟨former, earlier, same⟩ := alike.earlier found
  exact .inr ⟨former, earlier, same ▸ published⟩

/-- On a producer that is built, the known topics are published or none. -/
theorem Realigned.publishes {before after : Zone} (realigned : before.Realigned after) :
    Publishes before after := by
  have topics := realigned.topics.1
  unfold Realigned at realigned
  split at realigned
  · obtain ⟨_, _, _, _, rfl⟩ := realigned
    exact .of_alike (.refl before.fleet)
  · obtain ⟨summary, reconciled⟩ := realigned
    intro id producer found topic published
    by_cases old : id < before.fleet.producers.length
    · rw [reconciled.find?_earlier old] at found
      exact .inr ⟨producer, found, published⟩
    · rw [reconciled.fleet] at found
      obtain ⟨cluster, _, rfl | rfl⟩ := find?_enlist_new (Nat.le_of_not_lt old) found
      · cases published
      · left
        rw [topics]
        unfold Fleet.running at published
        split at published
        · cases published
        · exact published

/-- On a producer that hears of topics, all that are known are published or nothing new. -/
theorem Informed.publishes {before after : Zone} {current : NameSet}
    (informed : Informed current before after) : Publishes before after := by
  intro id producer found topic published
  rw [informed.fleet] at found
  split at found
  · obtain ⟨former, earlier, rfl⟩ := Option.map_eq_some_iff.mp found
    rw [informed.topics]
    unfold Fleet.inform at published
    split at published
    · exact .inr ⟨former, earlier, published⟩
    · rw [Producer.publish_adds] at published
      split at published
      · rcases (NameSet.contains_union _ _ _).mp published with had | new
        · exact .inr ⟨former, earlier, had⟩
        · exact .inl new
      · exact .inr ⟨former, earlier, published⟩
  · exact .inr ⟨producer, found, published⟩

end Zone

namespace Errand

variable {errand : Errand} {before after : Zone}

/-- An errand adds what it was given to the known topics, and no other. -/
theorem topics_eq (effect : errand.Effect before after) (open_ : errand.isClose = false) :
    after.topics = before.topics.union ((Leg.mk errand before after).observed.getD .empty) := by
  cases errand with
  | reload =>
    obtain ⟨middle, realigned, _, informed⟩ := effect
    obtain ⟨topics, announced, _⟩ := realigned.topics
    rw [informed.topics, topics, announced, Zone.announced_eq]
    rfl
  | reconcileClusters => exact effect.topics.1.trans (NameSet.union_empty _).symm
  | reconcileTopics =>
    rw [effect.topics, Zone.announced_eq]
    rfl
  | reclaim => exact effect.topics.trans (NameSet.union_empty _).symm
  | dispatch batch => exact effect.topics.trans (NameSet.union_empty _).symm
  | close => cases open_

theorem publishes (effect : errand.Effect before after) (open_ : errand.isClose = false) :
    before.Publishes after := by
  cases errand with
  | reload =>
    obtain ⟨middle, realigned, _, informed⟩ := effect
    intro id producer found topic published
    rcases informed.publishes id producer found topic published with known | ⟨former, found, had⟩
    · exact .inl known
    · rcases realigned.publishes id former found topic had with known | had
      · left
        rw [informed.topics, NameSet.contains_union]
        exact .inl known
      · exact .inr had
  | reconcileClusters => exact effect.publishes
  | reconcileTopics => exact effect.publishes
  | reclaim =>
    intro id producer found topic published
    rw [effect.fleet] at found
    obtain ⟨former, earlier, same, _⟩ := Fleet.stopEach_earlier found
    exact .inr ⟨former, earlier, same ▸ published⟩
  | dispatch batch => exact .of_alike (effect.producers.map Prod.snd)
  | close => cases open_

end Errand

namespace Course

/-- What a pool knows of topics after these legs: what was observed, and every topic of the
producers that were built since the last closing. -/
private structure Heard (legs : List Leg) (zone : Zone) : Prop where
  topics : ∀ topic, zone.topics.contains topic = true ↔
    Mentioned ((sinceClose legs).filterMap Leg.observed) topic
  grows : ∀ leg ∈ sinceClose legs, ∀ topic, leg.before.topics.contains topic = true →
    leg.after.topics.contains topic = true
  published : ∀ id producer, zone.fleet.find? id = some producer → BuiltSince legs id →
    ∀ topic, producer.topics.contains topic = true → zone.topics.contains topic = true

private theorem Heard.errand {legs : List Leg} {before after : Zone} (heard : Heard legs before)
    {errand : Errand} (effect : errand.Effect before after) :
    Heard (⟨errand, before, after⟩ :: legs) after := by
  cases closes : errand.isClose with
  | true =>
    cases errand with
    | close =>
      have none : sinceClose (⟨.close, before, after⟩ :: legs) = [] := rfl
      have topics : after.topics = .empty := by
        obtain ⟨_, _, _, _, _, _, rfl⟩ := effect.rest
        rfl
      refine ⟨fun topic => ?_, ?_, fun id producer found since => ?_⟩
      · simp [topics, none, Mentioned]
      · rw [none]
        exact List.forall_mem_nil _
      · have absent : after.fleet.find? id = Option.none := since _ List.mem_cons_self rfl
        rw [absent] at found
        cases found
    | reload | reconcileClusters | reconcileTopics | reclaim | dispatch => cases closes
  | false =>
    have topics := Errand.topics_eq effect closes
    have since : sinceClose (⟨errand, before, after⟩ :: legs) =
        ⟨errand, before, after⟩ :: sinceClose legs := List.takeWhile_cons_of_pos (by simp [closes])
    have adds : ∀ topic, after.topics.contains topic = true ↔
        before.topics.contains topic = true ∨
          Mentioned (Leg.mk errand before after).observed.toList topic := by
      intro topic
      rw [topics, NameSet.contains_union]
      cases (Leg.mk errand before after).observed <;> simp [Mentioned]
    have grows : ∀ topic, before.topics.contains topic = true →
        after.topics.contains topic = true := fun topic known => (adds topic).mpr (.inl known)
    refine ⟨fun topic => ?_, ?_, fun id producer found built topic published => ?_⟩
    · rw [adds, heard.topics, since]
      cases observed : (Leg.mk errand before after).observed with
      | none => simp [Mentioned, observed]
      | some given => simp [Mentioned, observed, or_comm]
    · rw [since]
      exact List.forall_mem_cons.mpr ⟨grows, heard.grows⟩
    · rcases Errand.publishes effect closes id producer found topic published with
        known | ⟨former, earlier, had⟩
      · exact known
      · have before := heard.published id former earlier
          (fun leg member => built leg (List.mem_cons_of_mem _ member)) topic had
        exact grows topic before

private theorem heard {legs : List Leg} {zone : Zone} (course : Course legs zone) :
    Heard legs zone := by
  induction course with
  | begin built _ =>
    obtain ⟨_, rfl⟩ := Zone.build_eq built
    refine ⟨fun topic => ?_, List.forall_mem_nil _, fun _ _ found => ?_⟩
    · simp [Mentioned, sinceClose]
    · cases found
  | outside _ change heard =>
    obtain ⟨⟨_, _, _, rfl⟩, _, _, _, producers⟩ := change
    refine ⟨heard.topics, heard.grows, fun id producer found built => ?_⟩
    rw [producers] at found
    obtain ⟨former, earlier, rfl⟩ := Option.map_eq_some_iff.mp found
    exact heard.published id former earlier built
  | errand errand course ran heard =>
    exact heard.errand ((course.errand errand ran).effect List.mem_cons_self).2

/-- In every course the known topics are exactly those of the sets that the catalog gave since the
pool was built or last closed; since then no leg has made them fewer; and no producer that was built
since then has a topic published that is not one of them. -/
theorem topics_iff_observed {legs : List Leg} {zone : Zone} (course : Course legs zone) :
    (∀ topic, zone.topics.contains topic = true ↔
      Mentioned ((sinceClose legs).filterMap Leg.observed) topic) ∧
    (∀ leg ∈ sinceClose legs, ∀ topic, leg.before.topics.contains topic = true →
      leg.after.topics.contains topic = true) ∧
    ∀ id producer, zone.fleet.find? id = some producer → BuiltSince legs id → ∀ topic,
      producer.topics.contains topic = true →
        Mentioned ((sinceClose legs).filterMap Leg.observed) topic := by
  have heard := course.heard
  exact ⟨heard.topics, heard.grows, fun id producer found built topic published =>
    (heard.topics topic).mp (heard.published id producer found built topic published)⟩

/-- A pool hears of two topics, is closed, and then hears of a third, of none and of a fourth. -/
def rumours : List Leg × Zone :=
  let one : List Cluster := [{ name := "A" }]
  errands blank [({ clusters := one, topics := .ofList ["t", "u"] }, 0, .reload),
    ({ clusters := one, topics := .ofList ["t", "u"] }, 0, .close),
    ({ clusters := one, topics := .ofList ["v"] }, 0, .reload),
    ({ clusters := one }, 0, .reconcileTopics),
    ({ clusters := one, topics := .ofList ["w"] }, 0, .reconcileTopics)]

private theorem rumours_course : Course rumours.1 rumours.2 := by
  have built : Zone.build { catalog := some (.inMemory [] .empty) } = .ok blank := rfl
  exact of_errands built rfl _

/-- What it heard before the closing is forgotten, and its second producer has never heard of it. -/
theorem topics_iff_observed_of_rumours : rumours.2.topics.names = ["v", "w"] ∧
    ¬Mentioned ((sinceClose rumours.1).filterMap Leg.observed) "t" ∧
    ∀ producer, rumours.2.fleet.find? 1 = some producer →
      producer.topics.contains "t" = false := by
  obtain ⟨known, _, published⟩ := topics_iff_observed rumours_course
  have unheard : rumours.2.topics.contains "t" = false := rfl
  have forgotten : ¬Mentioned ((sinceClose rumours.1).filterMap Leg.observed) "t" := fun heard => by
    rw [(known "t").mpr heard] at unheard
    cases unheard
  have built : BuiltSince rumours.1 1 := by
    iterate 3 refine List.forall_mem_cons.mpr ⟨nofun, ?_⟩
    exact List.forall_mem_cons.mpr ⟨fun _ => rfl, List.forall_mem_singleton.mpr nofun⟩
  refine ⟨rfl, forgotten, fun producer found => Bool.eq_false_iff.mpr fun heard => ?_⟩
  exact forgotten (published 1 producer found built "t" heard)

end Course
end ClusterPool
