import ClusterPool.Proofs.Zone.Ownership

/-! Which active producers have all known topics published. Topics reach a producer when it is
created and when they are made known anew while it is active. A producer that retires hears of
none, and being rescued does not make up for it. -/
namespace ClusterPool

/-- All of these topics are published on the producer. -/
def Producer.Covers (producer : Producer) (topics : NameSet) : Prop :=
  ∀ topic, topics.contains topic = true → producer.topics.contains topic = true

/-- The known topics were made known anew. -/
def Leg.broadcasts (leg : Leg) : Bool :=
  match leg.errand with
  | .reload | .reconcileTopics => leg.before.broadcasts leg.before.announced
  | _ => false

/-- A producer lags if topics were added while it was retiring, and none were made known anew while
it was active since. -/
def Lags : List Leg → ProducerId → Prop
  | [], _ => False
  | leg :: earlier, id =>
    (Lags earlier id ∨
      (leg.after.topics ≠ leg.before.topics ∧ id ∈ Zone.idsOf leg.after.retiring)) ∧
    ¬(leg.broadcasts = true ∧ id ∈ Zone.idsOf leg.after.active)

instance Lags.decide : (legs : List Leg) → (id : ProducerId) → Decidable (Lags legs id)
  | [], _ => inferInstanceAs (Decidable False)
  | _ :: earlier, id =>
    have := Lags.decide earlier id
    inferInstanceAs (Decidable ((Lags earlier id ∨ _) ∧ ¬_))

namespace Zone

/-- What is known of the producers after some legs of a course: which of those that run cover the
known topics, and that no other topics are published on any of them. -/
structure Tracked (legs : List Leg) (zone : Zone) : Prop where
  built : ∀ id, Lags legs id → ∃ producer, zone.fleet.find? id = some producer
  known : ∀ id producer, zone.fleet.find? id = some producer →
    ∀ topic, producer.topics.contains topic = true → zone.topics.contains topic = true
  covers : ∀ id producer, zone.fleet.find? id = some producer → producer.phase = .started →
    (producer.Covers zone.topics ↔ ¬Lags legs id)

namespace Tracked

/-- A leg without new topics leaves everybody where they were. -/
theorem silent {legs : List Leg} {zone : Zone} (tracked : Tracked legs zone) {leg : Leg}
    (mute : leg.broadcasts = false) (same : leg.after.topics = leg.before.topics) :
    Tracked (leg :: legs) zone := by
  have lags : ∀ id, Lags (leg :: legs) id ↔ Lags legs id := fun id => by
    simp [Lags, mute, same]
  refine ⟨fun id lag => tracked.built id ((lags id).mp lag), tracked.known, ?_⟩
  intro id producer found started
  rw [lags]
  exact tracked.covers id producer found started

/-- Producers that only change in other respects stay tracked. -/
theorem alike {legs : List Leg} {before after : Zone} (tracked : Tracked legs before)
    (topics : after.topics = before.topics)
    (producers : ∀ id producer, after.fleet.find? id = some producer →
      ∃ former, before.fleet.find? id = some former ∧ producer.topics = former.topics ∧
        (producer.phase = .started → former.phase = .started))
    (lasting : ∀ id producer, before.fleet.find? id = some producer →
      ∃ latter, after.fleet.find? id = some latter) : Tracked legs after := by
  constructor
  case built =>
    intro id lag
    obtain ⟨producer, found⟩ := tracked.built id lag
    exact lasting id producer found
  case known =>
    intro id producer found topic published
    obtain ⟨former, earlier, same, _⟩ := producers id producer found
    rw [topics]
    exact tracked.known id former earlier topic (same ▸ published)
  case covers =>
    intro id producer found started
    obtain ⟨former, earlier, same, began⟩ := producers id producer found
    rw [← tracked.covers id former earlier (began started), Producer.Covers, Producer.Covers, same,
      topics]

/-- A reconciliation of the clusters builds producers that cover the known topics, and changes
nothing about the others. -/
theorem realign {legs : List Leg} {before after : Zone} (tracked : Tracked legs before)
    (accepting : before.fleet.refusingPublish = .empty) (realigned : before.Realigned after) :
    Tracked legs after := by
  unfold Realigned at realigned
  split at realigned
  · obtain ⟨_, _, _, _, rfl⟩ := realigned
    exact tracked.alike rfl (fun _ producer found => ⟨producer, found, rfl, fun began => began⟩)
      fun _ producer found => ⟨producer, found⟩
  · obtain ⟨summary, reconciled⟩ := realigned
    have topics : after.topics = before.topics := by
      obtain ⟨_, _, _, _, _, _, _, _, _, _, rfl⟩ := reconciled.rest
      rfl
    have fresh : ∀ {id producer}, before.fleet.producers.length ≤ id →
        after.fleet.find? id = some producer →
          (producer.phase = .started → producer.topics = before.topics) ∧
          (producer.topics = .empty ∨ producer.topics = before.topics) := by
      intro id producer new found
      rw [reconciled.fleet] at found
      obtain ⟨cluster, _, rfl | rfl⟩ := find?_enlist_new new found
      · exact ⟨nofun, .inl rfl⟩
      · have published : (before.fleet.running before.name before.topics cluster).topics =
            before.topics := by simp [Fleet.running, accepting]
        exact ⟨fun _ => published, .inr published⟩
    constructor
    case built =>
      intro id lag
      obtain ⟨producer, found⟩ := tracked.built id lag
      exact ⟨producer, reconciled.find?_known found⟩
    case known =>
      intro id producer found topic published
      rw [topics]
      by_cases old : id < before.fleet.producers.length
      · rw [reconciled.find?_earlier old] at found
        exact tracked.known id producer found topic published
      · rcases (fresh (Nat.le_of_not_lt old) found).2 with none | all
        · rw [none, NameTable.contains_empty] at published
          cases published
        · exact all ▸ published
    case covers =>
      intro id producer found started
      rw [topics]
      by_cases old : id < before.fleet.producers.length
      · rw [reconciled.find?_earlier old] at found
        exact tracked.covers id producer found started
      · have all := (fresh (Nat.le_of_not_lt old) found).1 started
        refine iff_of_true (fun topic known => all ▸ known) fun lag => old ?_
        obtain ⟨former, earlier⟩ := tracked.built id lag
        exact (List.getElem?_eq_some_iff.mp earlier).1

/-- When topics are announced, the active producers hear of them, and whoever retires does not. -/
theorem inform {legs : List Leg} {before after : Zone} (tracked : Tracked legs before)
    (sound : before.Sound) (accepting : before.fleet.refusingPublish = .empty)
    {current : NameSet} (informed : Informed current before after) {leg : Leg}
    (loud : leg.broadcasts = before.broadcasts current) (ends : leg.after = after)
    (begins : leg.before.topics = before.topics) : Tracked (leg :: legs) after := by
  subst ends
  have active : leg.after.active = before.active := by
    obtain ⟨_, _, _, _, _, _, same⟩ := informed.rest
    rw [same]
  have retiring : leg.after.retiring = before.retiring := by
    obtain ⟨_, _, _, _, _, _, same⟩ := informed.rest
    rw [same]
  cases broadcast : before.broadcasts current with
  | false =>
    have topics := informed.topics.trans (union_of_silent broadcast)
    have fleet : ∀ id, leg.after.fleet.find? id = before.fleet.find? id := fun id => by
      rw [informed.fleet, broadcast]
      simp
    refine silent (tracked.alike topics ?_ ?_) (loud.trans broadcast) (topics.trans begins.symm)
    · exact fun id producer found => ⟨producer, fleet id ▸ found, rfl, fun began => began⟩
    · exact fun id producer found => ⟨producer, (fleet id).trans found⟩
  | true =>
    have fleet : ∀ id, leg.after.fleet.find? id = if id ∈ idsOf before.active then
        (before.fleet.find? id).map (before.fleet.inform leg.after.topics)
        else before.fleet.find? id := fun id => by
      rw [informed.fleet, broadcast, informed.topics]
      simp
    have grown : ∀ topic, before.topics.contains topic = true →
        leg.after.topics.contains topic = true := fun topic known => by
      rw [informed.topics, NameSet.contains_union]
      exact .inl known
    -- An active producer has started, so that it gets the topics.
    have served : ∀ {id producer}, id ∈ idsOf before.active →
      before.fleet.find? id = some producer →
        (before.fleet.inform leg.after.topics producer).topics =
          producer.topics.union leg.after.topics := by
      intro id producer serves found
      obtain ⟨name, slot, holds, rfl⟩ := mem_idsOf.mp serves
      obtain ⟨_, again, _, started⟩ := sound.backed name slot (.inl holds)
      rw [found] at again
      cases again
      simp [Fleet.inform, accepting, Producer.publish_adds, started]
    constructor
    case built =>
      rintro id ⟨lag | ⟨_, retires⟩, _⟩
      · obtain ⟨producer, found⟩ := tracked.built id lag
        rw [fleet, found]
        split <;> exact ⟨_, rfl⟩
      · rw [retiring] at retires
        obtain ⟨name, slot, holds, rfl⟩ := mem_idsOf.mp retires
        obtain ⟨producer, found, _⟩ := sound.backed name slot (.inr holds)
        rw [fleet, found]
        split <;> exact ⟨_, rfl⟩
    case known =>
      intro id producer found topic published
      rw [fleet] at found
      split at found
      · rename_i serves
        obtain ⟨former, earlier, rfl⟩ := Option.map_eq_some_iff.mp found
        rw [served serves earlier, NameSet.contains_union] at published
        rcases published with before | now
        · exact grown topic (tracked.known id former earlier topic before)
        · exact now
      · exact grown topic (tracked.known id producer found topic published)
    case covers =>
      intro id producer found started
      rw [fleet] at found
      split at found
      · rename_i serves
        obtain ⟨former, earlier, rfl⟩ := Option.map_eq_some_iff.mp found
        refine iff_of_true (fun topic known => ?_) fun lag =>
          lag.2 ⟨loud.trans broadcast, by rw [active]; exact serves⟩
        rw [served serves earlier, NameSet.contains_union]
        exact .inr known
      · rename_i apart
        obtain ⟨since, serves | retires⟩ := sound.held id producer found started
        · exact absurd (mem_idsOf.mpr ⟨_, _, serves, rfl⟩) apart
        · have missed : id ∈ idsOf leg.after.retiring := by
            rw [retiring]
            exact mem_idsOf.mpr ⟨_, _, retires, rfl⟩
          have unheard : ¬(leg.broadcasts = true ∧ id ∈ idsOf leg.after.active) := fun both =>
            apart (active ▸ both.2)
          by_cases same : leg.after.topics = leg.before.topics
          · have lags : Lags (leg :: legs) id ↔ Lags legs id := by simp [Lags, same, unheard]
            rw [lags, same, begins]
            exact tracked.covers id producer found started
          · -- What is published on it was known before, so that it misses what was added.
            refine iff_of_false (fun covers => same (NameSet.eq_of_contains fun topic => ?_))
              (not_not_intro ⟨.inr ⟨same, missed⟩, unheard⟩)
            rw [begins]
            exact ⟨fun later => tracked.known id producer found topic (covers topic later),
              grown topic⟩

end Tracked

/-- An errand that does not close the pool. -/
theorem Tracked.errand {legs : List Leg} {before after : Zone} (tracked : Tracked legs before)
    (sound : before.Sound) (accepting : before.fleet.refusingPublish = .empty) {errand : Errand}
    (stays : errand ≠ .close) (effect : errand.Effect before after) :
    Tracked (⟨errand, before, after⟩ :: legs) after := by
  cases errand with
  | reload =>
    obtain ⟨middle, realigned, idle, informed⟩ := effect
    obtain ⟨topics, announced, refusals⟩ := realigned.topics
    have loud : before.broadcasts before.announced = middle.broadcasts middle.announced := by
      rw [announced, broadcasts, broadcasts, topics]
    exact (tracked.realign accepting realigned).inform (sound.realign realigned idle)
      (refusals.trans accepting) informed loud rfl topics.symm
  | reconcileClusters => exact (tracked.realign accepting effect).silent rfl effect.topics.1
  | reconcileTopics => exact tracked.inform sound accepting effect rfl rfl rfl
  | reclaim =>
    refine (tracked.alike effect.topics ?_ ?_).silent rfl effect.topics
    · intro id producer found
      rw [effect.fleet] at found
      exact Fleet.stopEach_earlier found
    · intro id producer found
      rw [effect.fleet]
      exact Fleet.stopEach_later found
  | dispatch batch =>
    refine (tracked.alike effect.topics ?_ ?_).silent rfl effect.topics
    · intro id producer found
      obtain ⟨former, earlier, same⟩ := effect.producers.earlier found
      simp only [Producer.standing, Producer.life, Prod.mk.injEq] at same
      exact ⟨former, earlier, same.2.symm, fun runs => same.1.2.1.trans runs⟩
    · intro id producer found
      obtain ⟨latter, later, _⟩ := effect.producers.later found
      exact ⟨latter, later⟩
  | close => exact absurd rfl stays

/-- A zone that was just built has no producers. -/
theorem build_tracked {plan : Plan} {zone : Zone} (built : build plan = .ok zone) :
    Tracked [] zone := by
  have none : ∀ id, zone.fleet.find? id = none := by
    obtain ⟨_, rfl⟩ := build_eq built
    exact fun _ => rfl
  refine ⟨nofun, fun id producer found => ?_, fun id producer found => ?_⟩
  · rw [none] at found
    cases found
  · rw [none] at found
    cases found

end Zone

namespace Course

/-- How far the producers are behind, wherever a course without a closing has led. -/
private theorem tracked {legs : List Leg} {zone : Zone} (course : Course legs zone)
    (stays : ∀ leg ∈ legs, leg.errand ≠ .close)
    (accepting : ∀ leg ∈ legs, leg.before.fleet.refusingPublish = .empty) :
    Zone.Tracked legs zone := by
  induction course with
  | begin built => exact Zone.build_tracked built
  | outside _ change ih =>
    obtain ⟨⟨_, _, _, rfl⟩, _, _, _, switched⟩ := change
    refine (ih stays accepting).alike rfl ?_ ?_
    · intro id producer found
      rw [switched] at found
      obtain ⟨former, earlier, rfl⟩ := Option.map_eq_some_iff.mp found
      exact ⟨former, earlier, rfl, fun runs => runs⟩
    · intro id producer found
      rw [switched, found]
      exact ⟨_, rfl⟩
  | errand errand course ran ih =>
    have earlier := ih (fun leg member => stays leg (List.mem_cons_of_mem _ member))
      fun leg member => accepting leg (List.mem_cons_of_mem _ member)
    have effect := ((course.errand errand ran).effect List.mem_cons_self).2
    exact earlier.errand course.sound (accepting _ List.mem_cons_self)
      (stays _ List.mem_cons_self) effect

/-- In a course without a closing, and without a publication refused, an active producer covers the
known topics if and only if it does not lag. -/
theorem covers_iff_not_lags {legs : List Leg} {zone : Zone} (course : Course legs zone)
    (stays : ∀ leg ∈ legs, leg.errand ≠ .close)
    (accepting : ∀ leg ∈ legs, leg.before.fleet.refusingPublish = .empty) (name : String)
    (slot : Slot) (active : zone.active.find? name = some slot) :
    ∃ producer, zone.fleet.find? slot.producer = some producer ∧
      (producer.Covers zone.topics ↔ ¬Lags legs slot.producer) := by
  obtain ⟨producer, found, _, started⟩ := course.sound.backed name slot (.inl active)
  exact ⟨producer, found, (course.tracked stays accepting).covers _ producer found started⟩

private theorem absence_stays : ∀ leg ∈ absence.1, leg.errand ≠ .close := by
  have all : absence.1.map (·.errand) = [.reload, .reload, .reload, .reload] := rfl
  intro leg member
  have errand := List.mem_map_of_mem (f := (·.errand)) member
  rw [all] at errand
  simp at errand
  simp [errand]

private theorem absence_accepts :
    ∀ leg ∈ absence.1, leg.before.fleet.refusingPublish = .empty := by
  have all : absence.1.map (·.before.fleet.refusingPublish) =
      [.empty, .empty, .empty, .empty] := rfl
  intro leg member
  have refusals := List.mem_map_of_mem (f := (·.before.fleet.refusingPublish)) member
  rw [all] at refusals
  simpa using refusals

/-- The producer that was never away covers the known topics. -/
theorem covers_iff_not_lags_of_absence : ∃ producer, absence.2.fleet.find? 1 = some producer ∧
    producer.Covers absence.2.topics := by
  obtain ⟨producer, found, covers⟩ :=
    covers_iff_not_lags absence_course absence_stays absence_accepts "B" ⟨1, 0⟩ rfl
  exact ⟨producer, found, covers.mpr (by decide)⟩

/-- The producer that was away does not: it is not so that every active producer covers them. -/
theorem absence_uncovered : ¬∀ legs zone, Course legs zone → (∀ leg ∈ legs, leg.errand ≠ .close) →
    (∀ leg ∈ legs, leg.before.fleet.refusingPublish = .empty) → ∀ name slot,
      zone.active.find? name = some slot → ∃ producer,
        zone.fleet.find? slot.producer = some producer ∧ producer.Covers zone.topics := by
  intro always
  obtain ⟨producer, found, covers⟩ :=
    always _ _ absence_course absence_stays absence_accepts "A" ⟨0, 0⟩ rfl
  have published : (absence.2.fleet.find? 0).map (fun producer =>
      producer.topics.contains "u") = some false := rfl
  rw [found, Option.map_some, covers "u" rfl] at published
  cases published

end Course
end ClusterPool
