import ClusterPool.Producer.Fleet
import ClusterPool.Proofs.Tables

/-! What a fleet is after something was asked of one of its producers. Every request to a producer
is an update at its number, so that one law on updates says what becomes of the others. -/
namespace ClusterPool

namespace Producer

/-- A stop leads to the end from every phase but the middle of another stop. -/
theorem stop_stops {producer : Producer} (settled : producer.phase ≠ .stopping) :
    producer.stop.2 =
      { producer with phase := .stopped, stops := producer.stops + 1 } := by
  cases at_ : producer.phase <;> cases fails : producer.failsStop <;>
    simp_all [stop, Phase.beginStop, Phase.finishStop]

/-- A stop takes nothing from the topics, and nobody runs after one. -/
theorem stop_topics (producer : Producer) :
    producer.stop.2.topics = producer.topics ∧ producer.stop.2.phase ≠ .started := by
  cases at_ : producer.phase <;> cases fails : producer.failsStop <;>
    simp [stop, Phase.beginStop, Phase.finishStop, at_, fails]

/-- A stop reports a failure if the producer fails it, and whoever fails one stop fails the next. -/
theorem stop_fails (producer : Producer) :
    producer.stop.1.toBool = !producer.failsStop ∧
      producer.stop.2.failsStop = producer.failsStop := by
  cases fails : producer.failsStop <;> simp [stop, fails, Except.toBool]

theorem stop_counts (producer : Producer) :
    producer.stop.2.stops = producer.stops + 1 := by
  cases fails : producer.failsStop <;> simp [stop, fails]

/-- Topics reach a producer that is started, and no other. -/
theorem publish_adds (topics : NameSet) (producer : Producer) :
    (producer.publish topics).2 =
      if producer.phase = .started then
        { producer with topics := producer.topics.union topics }
      else producer := by
  by_cases started : producer.phase = .started <;>
    simp [publish, Phase.ensureStarted, started]

/-- What a life consists of: its cluster, the phase it is in, and how often it was asked to start
and to stop. -/
abbrev Life := Cluster × Phase × UInt32 × UInt32

def life (producer : Producer) : Life :=
  (producer.cluster, producer.phase, producer.starts, producer.stops)

theorem publish_life (topics : NameSet) (producer : Producer) :
    (producer.publish topics).2.life = producer.life := by
  rw [publish_adds]
  split <;> rfl

@[simp] theorem sent_take (batch : Batch) (producer : Producer) :
    (producer.take batch).sent = producer.sent ++ [batch] := rfl

/-- A batch is kept by a started producer that does not fail. -/
theorem send_keeps (batch : Batch) (producer : Producer) :
    (producer.send batch).2 =
      if producer.phase = .started ∧ producer.failsSends = false then
        producer.take batch
      else producer := by
  by_cases started : producer.phase = .started <;> cases fails : producer.failsSends <;>
    simp [send, Phase.ensureStarted, started, fails]

/-- What of a producer is the same before and after a batch was sent through it. -/
def standing (producer : Producer) : Life × NameSet :=
  (producer.life, producer.topics)

theorem send_standing (batch : Batch) (producer : Producer) :
    (producer.send batch).2.standing = producer.standing := by
  rw [send_keeps]
  split <;> rfl

end Producer

namespace Fleet

@[simp] theorem find?_update (fleet : Fleet) (id other : ProducerId)
    (action : Producer → Producer) :
    (fleet.update id action).find? other =
      if id = other then (fleet.find? other).map action else fleet.find? other := by
  simp only [find?, update, List.getElem?_modify]
  by_cases same : id = other <;> simp [same]

theorem find?_update_self {fleet : Fleet} {id : ProducerId} {producer : Producer}
    (found : fleet.find? id = some producer) (action : Producer → Producer) :
    (fleet.update id action).find? id = some (action producer) := by
  rw [find?_update, if_pos rfl, found, Option.map_some]

theorem find?_update_other {id other : ProducerId} (differs : other ≠ id) (fleet : Fleet)
    (action : Producer → Producer) :
    (fleet.update id action).find? other = fleet.find? other := by
  rw [find?_update, if_neg differs.symm]

/-- An update takes no producer away. -/
theorem update_lasts {fleet : Fleet} {other : ProducerId}
    (found : ∃ producer, fleet.find? other = some producer) (id : ProducerId)
    (action : Producer → Producer) :
    ∃ producer, (fleet.update id action).find? other = some producer := by
  obtain ⟨producer, found⟩ := found
  by_cases same : other = id
  · subst same
    exact ⟨_, find?_update_self found action⟩
  · exact ⟨producer, (find?_update_other same fleet action).trans found⟩

/-- Two actions that do the same to the producer itself are the same update. -/
theorem update_congr {fleet : Fleet} {id : ProducerId} {first second : Producer → Producer}
    (same : ∀ producer, fleet.find? id = some producer → first producer = second producer) :
    fleet.update id first = fleet.update id second := by
  suffices equal : fleet.producers.modify id first = fleet.producers.modify id second by
    simp [update, equal]
  refine List.ext_getElem? fun other => ?_
  by_cases here : id = other
  · subst here
    cases found : fleet.producers[id]? with
    | none => simp [found]
    | some producer => simp [found, same producer found]
  · simp [List.getElem?_modify_ne _ _ here]

/-- An action that leaves the producer as it is leaves the fleet as it is. -/
theorem update_unchanged {fleet : Fleet} {id : ProducerId} {action : Producer → Producer}
    (same : ∀ producer, fleet.find? id = some producer → action producer = producer) :
    fleet.update id action = fleet := by
  suffices equal : fleet.producers.modify id action = fleet.producers by simp [update, equal]
  refine List.ext_getElem? fun other => ?_
  by_cases here : id = other
  · subst here
    cases found : fleet.producers[id]? with
    | none => simp [found]
    | some producer => simp [found, same producer found]
  · simp [List.getElem?_modify_ne _ _ here]

/-- What is done to the producer that was found is done to the producer of the number. -/
theorem update_found {fleet : Fleet} {id : ProducerId} {producer : Producer}
    (found : fleet.find? id = some producer) (action : Producer → Producer) :
    (fleet.update id fun _ => action producer) = fleet.update id action :=
  update_congr fun other same => by rw [Option.some.inj (same.symm.trans found)]

theorem stop_updates (fleet : Fleet) (id : ProducerId) :
    (fleet.stop id).2 = fleet.update id fun producer => producer.stop.2 := by
  cases found : fleet.find? id with
  | none => simp [stop, found, update_unchanged]
  | some producer =>
    simp only [stop, found]
    exact update_found found fun producer => producer.stop.2

theorem send_updates (fleet : Fleet) (id : ProducerId) (batch : Batch) :
    (fleet.send id batch).2 = fleet.update id fun producer => (producer.send batch).2 := by
  cases found : fleet.find? id with
  | none => simp [send, found, update_unchanged]
  | some producer =>
    simp only [send, found]
    exact update_found found fun producer => (producer.send batch).2

theorem finishStart_updates (fleet : Fleet) (id : ProducerId) :
    (fleet.finishStart id).2 = fleet.update id fun producer => producer.finishStart.2 := by
  cases found : fleet.find? id with
  | none => simp [finishStart, found, update_unchanged]
  | some producer =>
    simp only [finishStart, found]
    exact update_found found fun producer => producer.finishStart.2

/-- What a publication makes of a producer of the fleet: nothing new where publishing is refused
or the producer is not started. -/
def inform (fleet : Fleet) (topics : NameSet) (producer : Producer) : Producer :=
  if fleet.refusingPublish.contains producer.cluster.name then producer
  else (producer.publish topics).2

theorem inform_life (fleet : Fleet) (topics : NameSet) (producer : Producer) :
    (fleet.inform topics producer).life = producer.life := by
  unfold inform
  split
  · rfl
  · exact producer.publish_life topics

theorem inform_sent (fleet : Fleet) (topics : NameSet) (producer : Producer) :
    (fleet.inform topics producer).sent = producer.sent := by
  unfold inform
  split
  · rfl
  · rw [Producer.publish_adds]
    split <;> rfl

/-- What is published already is not changed by publishing it again. -/
theorem inform_inform (fleet : Fleet) (topics : NameSet) (producer : Producer) :
    fleet.inform topics (fleet.inform topics producer) = fleet.inform topics producer := by
  unfold inform
  by_cases refused : fleet.refusingPublish.contains producer.cluster.name = true
  · simp only [refused, ↓reduceIte]
  · by_cases started : producer.phase = .started <;>
      simp [refused, Producer.publish_adds, started, NameSet.union_union_self]

/-- A publication is an update of the producer alone. -/
theorem publish_updates (fleet : Fleet) (id : ProducerId) (topics : NameSet) :
    (fleet.publish id topics).2 = fleet.update id (fleet.inform topics) := by
  unfold inform
  cases found : fleet.find? id with
  | none => simp [publish, found, update_unchanged]
  | some producer =>
    have itself : ∀ other, fleet.find? id = some other → other = producer := fun other same =>
      Option.some.inj (same.symm.trans found)
    by_cases refused : fleet.refusingPublish.contains producer.cluster.name = true
    · rw [update_unchanged fun other same => by simp [itself other same, refused]]
      simp [publish, found, refused]
    · simp only [publish, found, refused]
      exact update_congr fun other same => by simp [itself other same, refused]

/-- Two fleets of the same producers, as far as one looks at them through `view`. -/
def Alike (view : Producer → β) (before after : Fleet) : Prop :=
  ∀ id, (after.find? id).map view = (before.find? id).map view

namespace Alike

variable {view : Producer → β}

theorem refl (fleet : Fleet) : Alike view fleet fleet := fun _ => rfl

theorem trans {first second third : Fleet} (early : Alike view first second)
    (late : Alike view second third) : Alike view first third :=
  fun id => (late id).trans (early id)

/-- Whoever sees more sees all that can be told from it. -/
theorem map {before after : Fleet} (alike : Alike view before after) (part : β → γ) :
    Alike (part ∘ view) before after := fun id => by
  rw [← Option.map_map, ← Option.map_map, alike id]

/-- A producer of the later fleet is one of the earlier fleet. -/
theorem earlier {before after : Fleet} (alike : Alike view before after) {id : ProducerId}
    {producer : Producer} (found : after.find? id = some producer) :
    ∃ former, before.find? id = some former ∧ view former = view producer := by
  have same := alike id
  rw [found, Option.map_some] at same
  exact Option.map_eq_some_iff.mp same.symm

theorem later {before after : Fleet} (alike : Alike view before after) {id : ProducerId}
    {producer : Producer} (found : before.find? id = some producer) :
    ∃ latter, after.find? id = some latter ∧ view latter = view producer := by
  have same := alike id
  rw [found, Option.map_some] at same
  exact Option.map_eq_some_iff.mp same

end Alike

theorem update_alike {view : Producer → β} (fleet : Fleet) (id : ProducerId)
    {action : Producer → Producer} (same : ∀ producer, view (action producer) = view producer) :
    Alike view fleet (fleet.update id action) := by
  intro other
  rw [find?_update]
  split
  · cases fleet.find? other <;> simp [same]
  · rfl

/-- Publishes topics on producers one after the other. -/
def publishEach (fleet : Fleet) (topics : NameSet) (ids : List ProducerId) : Fleet :=
  ids.foldl (fun fleet id => (fleet.publish id topics).2) fleet

theorem find?_publishEach (fleet : Fleet) (topics : NameSet) (ids : List ProducerId)
    (id : ProducerId) : (fleet.publishEach topics ids).find? id =
      if id ∈ ids then (fleet.find? id).map (fleet.inform topics) else fleet.find? id := by
  induction ids generalizing fleet with
  | nil => simp [publishEach]
  | cons first rest ih =>
    rw [publishEach, List.foldl_cons, publish_updates]
    apply (ih _).trans
    have inform : (fleet.update first (fleet.inform topics)).inform topics =
        fleet.inform topics := rfl
    rw [inform, find?_update]
    by_cases same : id = first
    · subst same
      cases fleet.find? id <;> simp [inform_inform]
    · simp [same, Ne.symm same]

/-- Stops producers one after the other. -/
def stopEach (fleet : Fleet) (ids : List ProducerId) : Fleet :=
  ids.foldl (fun fleet id => (fleet.stop id).2) fleet

theorem find?_stopEach (fleet : Fleet) {ids : List ProducerId} (once : ids.Nodup)
    (id : ProducerId) : (fleet.stopEach ids).find? id =
      if id ∈ ids then (fleet.find? id).map fun producer => producer.stop.2
      else fleet.find? id := by
  induction ids generalizing fleet with
  | nil => simp [stopEach]
  | cons first rest ih =>
    obtain ⟨absent, once⟩ := List.nodup_cons.mp once
    rw [stopEach, List.foldl_cons, stop_updates]
    apply (ih _ once).trans
    rw [find?_update]
    by_cases same : id = first
    · subst same
      simp [absent]
    · simp [same, Ne.symm same]

/-- Stopping keeps the topics of all producers and makes none of them run. -/
theorem stopEach_earlier {fleet : Fleet} {ids : List ProducerId} {id : ProducerId}
    {producer : Producer} (found : (fleet.stopEach ids).find? id = some producer) :
    ∃ former, fleet.find? id = some former ∧ producer.topics = former.topics ∧
      (producer.phase = .started → former.phase = .started) := by
  induction ids generalizing fleet with
  | nil => exact ⟨producer, found, rfl, fun runs => runs⟩
  | cons first rest ih =>
    rw [stopEach, List.foldl_cons, stop_updates] at found
    obtain ⟨middle, between, topics, runs⟩ := ih found
    rw [find?_update] at between
    split at between
    · obtain ⟨former, earlier, rfl⟩ := Option.map_eq_some_iff.mp between
      obtain ⟨same, ended⟩ := former.stop_topics
      exact ⟨former, earlier, topics.trans same, fun started => absurd (runs started) ended⟩
    · exact ⟨middle, between, topics, runs⟩

theorem stopEach_later {fleet : Fleet} {ids : List ProducerId} {id : ProducerId}
    {producer : Producer} (found : fleet.find? id = some producer) :
    ∃ latter, (fleet.stopEach ids).find? id = some latter := by
  induction ids generalizing fleet producer with
  | nil => exact ⟨producer, found⟩
  | cons first rest ih =>
    rw [stopEach, List.foldl_cons, stop_updates]
    have still : ∃ latter, (fleet.update first fun producer => producer.stop.2).find? id =
        some latter := by
      by_cases same : first = id <;> simp [same, found]
    obtain ⟨latter, later⟩ := still
    exact ih later

/-- The fleet with one producer more. -/
def add (fleet : Fleet) (producer : Producer) : Fleet :=
  { fleet with producers := fleet.producers ++ [producer] }

section
variable (fleet : Fleet) (producer : Producer)

@[simp] theorem find?_add_newest :
    (fleet.add producer).find? fleet.producers.length = some producer := by simp [find?, add]

/-- An update at the number of the newest producer is an update of that producer. -/
@[simp] theorem update_add_newest (action : Producer → Producer) :
    (fleet.add producer).update fleet.producers.length action = fleet.add (action producer) := by
  suffices equal : (fleet.producers ++ [producer]).modify fleet.producers.length action =
      fleet.producers ++ [action producer] by simp [update, add, equal]
  simp [List.modify_eq_take_cons_drop]

theorem finishStart_add_newest :
    (fleet.add producer).finishStart fleet.producers.length =
      (producer.finishStart.1, fleet.add producer.finishStart.2) := by simp [finishStart]

theorem publish_add_newest (topics : NameSet) :
    ((fleet.add producer).publish fleet.producers.length topics).2 = fleet.add
      (if fleet.refusingPublish.contains producer.cluster.name then producer
        else (producer.publish topics).2) := by
  rw [publish_updates, update_add_newest]
  rfl

end

end Fleet
end ClusterPool
