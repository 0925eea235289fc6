import ClusterPool.Proofs.Zone.Answers
import ClusterPool.Proofs.Zone.Counting
import ClusterPool.Proofs.Zone.Custody

/-! The conservation of what is counted. The counters of a pool, read as natural numbers, are told
by the answers to its errands, and they account for every cluster that it holds and for every batch
that its producers took. -/
namespace ClusterPool
open Program

/-- How a send has ended for which this fault was answered. -/
def Fault.counted : Fault → Counted
  | .noRoute _ => .sendsUnroutable
  | _ => .sendsFailed

namespace Errand

/-- What an errand has counted, by its answer. -/
def counted : Errand → Answer → List Counted
  | reload, .summary summary => summary.counted ++ [.reloads]
  | reload, _ => [.reloads]
  | reconcileClusters, .summary summary => summary.counted
  | reclaim, .names names => names.map fun _ => .producersReclaimed
  | dispatch _, .name _ => [.sendsSucceeded]
  | dispatch _, .fault fault => [fault.counted]
  | _, _ => []

def isDispatch : Errand → Bool
  | dispatch _ => true
  | _ => false

def isReload : Errand → Bool
  | reload => true
  | _ => false

end Errand

/-- What the errand of a leg has counted. -/
def Leg.counted (leg : Leg) : List Counted :=
  ((leg.errand.work.runAlone Zone.passUntil leg.before).1.map leg.errand.counted).getD []

/-- How often an event was counted on these legs. -/
def Course.total (legs : List Leg) (event : Counted) : Nat :=
  (legs.flatMap Leg.counted).count event

theorem Leg.counted_of_ran {leg : Leg} {answer : Answer}
    (ran : leg.errand.work.runAlone Zone.passUntil leg.before = (some answer, leg.after)) :
    leg.counted = leg.errand.counted answer := by
  rw [counted, ran]
  rfl

namespace Summary

/-- Of each kind a reconciliation counts as many as it names. -/
theorem count_counted (summary : Summary) (event : Counted) : summary.counted.count event =
    match event with
    | .producersRescued => summary.rescued.length
    | .producersCreated => summary.created.length
    | .producersRetired => summary.removed.length
    | _ => 0 := by
  cases event <;> simp [counted, List.map_const', List.count_replicate]

end Summary

namespace Zone

/-- Both tables have grown and shrunk by what these events tell. -/
structure Balanced (events : List Counted) (before after : Zone) : Prop where
  active : after.active.size + events.count .producersRetired =
    before.active.size + events.count .producersCreated + events.count .producersRescued
  retiring : after.retiring.size + events.count .producersRescued +
    events.count .producersReclaimed = before.retiring.size + events.count .producersRetired

namespace Balanced

theorem of_same {events : List Counted} {before after : Zone}
    (active : after.active = before.active) (retiring : after.retiring = before.retiring)
    (neutral : ∀ event ∈ events, event ≠ .producersRetired ∧ event ≠ .producersCreated ∧
      event ≠ .producersRescued ∧ event ≠ .producersReclaimed) : Balanced events before after := by
  have none : ∀ event, (∀ other ∈ events, other ≠ event) → events.count event = 0 :=
    fun event others => List.count_eq_zero.mpr fun member => others event member rfl
  have retired := none .producersRetired fun other member => (neutral other member).1
  have created := none .producersCreated fun other member => (neutral other member).2.1
  have rescued := none .producersRescued fun other member => (neutral other member).2.2.1
  have reclaimed := none .producersReclaimed fun other member => (neutral other member).2.2.2
  constructor
  · rw [active, retired, created, rescued]
  · rw [retiring, retired, rescued, reclaimed]

/-- What follows changes neither the tables nor what is counted of them. -/
theorem append {events more : List Counted} {before middle after : Zone}
    (early : Balanced events before middle) (late : Balanced more middle after) :
    Balanced (events ++ more) before after := by
  obtain ⟨active, retiring⟩ := early
  obtain ⟨laterActive, laterRetiring⟩ := late
  constructor
  · simp only [List.count_append]
    omega
  · simp only [List.count_append]
    omega

end Balanced

theorem ofOrigin_nodup {order : List Cluster} (once : (order.map (·.name)).Nodup) (zone : Zone)
    (origin : Origin) : (zone.ofOrigin origin order).Nodup :=
  once.sublist (List.filter_sublist.map _)

/-- The clusters that can be served are kept, rescued or created. -/
private theorem servable_length (zone : Zone) (order : List Cluster) :
    (zone.servable order).length = (zone.ofOrigin .kept order).length +
      (zone.ofOrigin .rescued order).length + (zone.ofOrigin .created order).length := by
  simp only [servable, ofOrigin, List.length_map, ne_eq, decide_not]
  induction order with
  | nil => rfl
  | cons cluster rest ih =>
    cases origin : zone.origin cluster.name <;> simp [origin, ih] <;> omega

section
variable {order : List Cluster} {before after : Zone} {summary : Summary}
  (once : (order.map (·.name)).Nodup) (apart : before.Apart)
  (reconciled : Reconciled order before summary after)

include once

variable (before) in
/-- An active cluster is kept or retires. -/
private theorem active_size : before.active.size = (before.ofOrigin .kept order).length +
    (before.active.names.filter fun name => name ∉ order.map (·.name)).length := by
  refine NameTable.size_eq_add (ofOrigin_nodup once before .kept)
    (before.active.names_nodup.filter _) ?_ fun name => ?_
  · intro name kept goes
    exact of_decide_eq_true (List.mem_filter.mp goes).2 (mem_ofOrigin.mp kept).1
  · rw [mem_ofOrigin, origin_kept_iff, List.mem_filter, NameTable.mem_names_iff, decide_eq_true_eq]
    by_cases inside : name ∈ order.map (·.name) <;> simp [inside]

include apart

/-- A retiring cluster is rescued or goes on to retire. -/
private theorem retiring_size : before.retiring.size = (before.ofOrigin .rescued order).length +
    (before.retiring.names.filter fun name => name ∉ order.map (·.name)).length := by
  refine NameTable.size_eq_add (ofOrigin_nodup once before .rescued)
    (before.retiring.names_nodup.filter _) ?_ fun name => ?_
  · intro name rescued stays
    exact of_decide_eq_true (List.mem_filter.mp stays).2 (mem_ofOrigin.mp rescued).1
  · have inactive : before.retiring.contains name = true →
        before.active.contains name = false := by
      intro retires
      obtain ⟨slot, found⟩ := NameTable.contains_iff.mp retires
      exact NameTable.contains_eq_false_iff.mpr (apart.inactive found)
    rw [mem_ofOrigin, origin_rescued_iff, List.mem_filter, NameTable.mem_names_iff,
      decide_eq_true_eq]
    by_cases inside : name ∈ order.map (·.name)
    · simpa [inside] using inactive
    · simp [inside]

include reconciled

/-- A reconciliation moves clusters between the tables as its summary tells. -/
theorem Reconciled.balances : Balanced summary.counted before after := by
  have nowActive : after.active.size = (before.servable order).length :=
    NameTable.size_eq_length (once.sublist (List.filter_sublist.map _)) fun name =>
      (reconciled.active name).symm
  have nowRetiring : after.retiring.size =
      (before.active.names.filter fun name => name ∉ order.map (·.name)).length +
      (before.retiring.names.filter fun name => name ∉ order.map (·.name)).length := by
    refine NameTable.size_eq_add (before.active.names_nodup.filter _)
      (before.retiring.names_nodup.filter _) ?_ fun name => ?_
    · intro name goes stays
      obtain ⟨slot, active⟩ := NameTable.contains_iff.mp
        (NameTable.mem_names_iff.mp (List.mem_filter.mp goes).1)
      have retires := NameTable.mem_names_iff.mp (List.mem_filter.mp stays).1
      rw [NameTable.contains, apart name slot active] at retires
      cases retires
    · rw [List.mem_filter, List.mem_filter, NameTable.mem_names_iff, NameTable.mem_names_iff,
        NameTable.contains, NameTable.contains, NameTable.contains, reconciled.retiring]
      by_cases inside : name ∈ order.map (·.name)
      · simp [inside]
      · cases active : before.active.find? name <;> simp [inside]
  have wasActive := active_size before once
  have wasRetiring := retiring_size once apart
  have served := before.servable_length order
  constructor
  · simp only [Summary.count_counted, reconciled.summary, summaryOf]
    omega
  · simp only [Summary.count_counted, reconciled.summary, summaryOf]
    omega

end

/-- So does a reconciliation of whatever the catalog offers. -/
theorem Realigned.balances {before after : Zone} (realigned : before.Realigned after)
    (apart : before.Apart) :
    Balanced ((before.reconciliation.toOption.map Summary.counted).getD []) before after := by
  unfold Realigned at realigned
  split at realigned
  · rename_i nothing
    obtain ⟨_, _, _, _, rfl⟩ := realigned
    refine .of_same rfl rfl fun event member => ?_
    cases answers : before.reconciliation with
    | error fault =>
      rw [answers] at member
      cases member
    | ok summary =>
      rw [answers, reconciliation_of_nothing nothing answers] at member
      cases member
  · rename_i offers
    obtain ⟨summary, reconciled⟩ := realigned
    have balanced := reconciled.balances before.offered_once apart
    rw [reconciled.summary] at balanced
    rw [reconciliation_of_offered offers]
    exact balanced

theorem Reclaimed.balances {before after : Zone} (reclaimed : before.Reclaimed after) :
    Balanced (before.due.names.map fun _ => .producersReclaimed) before after := by
  have parts : before.retiring.size = before.due.size + after.retiring.size := by
    rw [reclaimed.retiring]
    simpa [due, NameTable.size, NameTable.filter, List.countP_eq_length_filter] using
      List.length_eq_countP_add_countP (l := before.retiring.entries) fun entry =>
        Holdings.isDue before.clock.now before.settings.graceMillis entry.2
  have due : before.due.names.length = before.due.size := List.length_map _
  have active : after.active = before.active := by
    obtain ⟨_, _, _, _, _, _, rfl⟩ := reclaimed.rest
    rfl
  constructor
  · simp [List.map_const', List.count_replicate, active]
  · simp only [List.map_const', List.count_replicate, due]
    simp
    omega

end Zone

namespace Fleet

/-- How many batches the producers of a fleet have taken. -/
def taken (fleet : Fleet) : Nat := (fleet.producers.flatMap (·.sent)).length

private theorem taken_eq_of_extends {first second : List Producer}
    (lasts : ∀ (id : Nat) producer, first[id]? = some producer →
      ∃ latter, second[id]? = some latter ∧ latter.sent = producer.sent)
    (unused : ∀ (id : Nat) producer, first[id]? = none → second[id]? = some producer →
      producer.sent = []) :
    (second.flatMap (·.sent)).length = (first.flatMap (·.sent)).length := by
  induction second generalizing first with
  | nil =>
    cases first with
    | nil => rfl
    | cons head rest =>
      obtain ⟨_, found, _⟩ := lasts 0 head rfl
      cases found
  | cons latter later ih =>
    cases first with
    | nil =>
      have nothing := @ih [] nofun fun id producer _ found => unused (id + 1) producer rfl found
      simp [unused 0 latter rfl rfl, nothing]
    | cons head rest =>
      obtain ⟨_, found, same⟩ := lasts 0 head rfl
      cases found
      have others := @ih rest (fun id producer found => lasts (id + 1) producer found)
        fun id producer absent found => unused (id + 1) producer absent found
      simp [same, others]

/-- What leaves the batches of all producers alone keeps their number. -/
theorem Spares.taken {before after : Fleet} (spares : Spares before after) :
    after.taken = before.taken := taken_eq_of_extends spares.lasts spares.unused

/-- What one producer takes counts for the fleet. -/
theorem taken_update {fleet : Fleet} {id : ProducerId} {producer : Producer}
    (found : fleet.find? id = some producer) (action : Producer → Producer) :
    (fleet.update id action).taken + producer.sent.length =
      fleet.taken + (action producer).sent.length := by
  obtain ⟨inside, here⟩ := List.getElem?_eq_some_iff.mp found
  obtain ⟨earlier, one, later, whole, place, changed⟩ := List.exists_of_modify action inside
  have same : one = producer := by
    rw [← here]
    simp [whole, ← place]
  rw [taken, taken, update, changed, whole, same]
  simp
  omega

end Fleet

namespace Zone

/-- A dispatch adds one batch to those taken if it succeeds, and none otherwise. -/
private theorem handed_taken {zone : Zone} (agreed : zone.Agreed) (sound : zone.Sound)
    (batch : Batch) : (zone.handed batch).taken =
      zone.fleet.taken + [outcomeOf zone.next?].count .sendsSucceeded := by
  cases picks : zone.rotation.next? with
  | none =>
    have nobody : zone.next? = none := by simp [next?, picks]
    rw [handed, picks, nobody]
    rfl
  | some cluster =>
    obtain ⟨slot, producer, found, known, _, started, next⟩ := next?_found agreed sound picks
    rw [handed, picks, Option.bind_some, found, next]
    dsimp only
    rw [Fleet.send_updates]
    have counts := Fleet.taken_update known fun producer => (producer.send batch).2
    rw [Producer.send_keeps] at counts
    cases fails : producer.failsSends with
    | true =>
      rw [if_neg (by simp [fails])] at counts
      simpa [outcomeOf, fails] using counts
    | false =>
      rw [if_pos ⟨started, fails⟩, Producer.sent_take, List.length_append] at counts
      simp [outcomeOf, fails] at counts ⊢
      omega

end Zone

namespace Errand

/-- What a dispatch counts is told by its answer. -/
private theorem counted_answerOf (batch : Option Batch) (pool : String)
    (next : Option Producer) :
    (dispatch batch).counted (.ofExcept .name (Zone.answerOf pool next)) =
      [Zone.outcomeOf next] := by
  cases next with
  | none => rfl
  | some producer =>
    cases fails : producer.failsSends <;> simp [Zone.answerOf, Zone.outcomeOf, fails] <;> rfl

/-- What an errand does to the counters, to the tables and to the batches that were taken, with what
its answer tells. -/
structure Accounts (errand : Errand) (answer : Answer) (before after : Zone) : Prop where
  tally : before.tally.Gains (errand.counted answer) after.tally
  tables : Zone.Balanced (errand.counted answer) before after
  batches : after.fleet.taken =
    before.fleet.taken + (errand.counted answer).count .sendsSucceeded
  sends : (errand.counted answer).count .sendsSucceeded +
    (errand.counted answer).count .sendsFailed +
    (errand.counted answer).count .sendsUnroutable = errand.isDispatch.toNat

private theorem dispatch_accounts (batch : Option Batch) {zone : Zone} (agreed : zone.Agreed)
    (sound : zone.Sound) :
    (dispatch batch).work.Attains Zone.passUntil
      (fun answer after => (dispatch batch).Accounts answer zone after) zone := by
  have numbered : ∃ numbered, (zone.batchOr batch).2 = { zone with numbered } := by
    cases batch <;> exact ⟨_, rfl⟩
  obtain ⟨number, numbered⟩ := numbered
  refine attains_bind.mpr (attains_perform.mpr (attains_bind.mpr ?_))
  rw [numbered]
  have still : Zone.Sound { zone with numbered := number } := sound.of_lives
    ⟨sound.idle.reload, sound.idle.book, sound.idle.readable⟩ rfl rfl (.refl zone.fleet)
  have routed : Zone.Agreed { zone with numbered := number } := agreed.of_same rfl rfl
  refine (Zone.dispatch_hands routed still _).mono ?_
  rintro _ _ ⟨rfl, cursor, rfl⟩
  refine attains_done.mpr ?_
  have told := counted_answerOf batch zone.name zone.next?
  have outcomes : Zone.outcomeOf zone.next? = .sendsSucceeded ∨
      Zone.outcomeOf zone.next? = .sendsFailed ∨
      Zone.outcomeOf zone.next? = .sendsUnroutable := by
    unfold Zone.outcomeOf
    split
    · exact .inr (.inr rfl)
    · split <;> simp
  constructor
  · exact told ▸ .count zone.tally _
  · refine told ▸ .of_same rfl rfl fun event member => ?_
    obtain rfl := List.mem_singleton.mp member
    rcases outcomes with outcome | outcome | outcome <;> simp [outcome]
  · exact told ▸ Zone.handed_taken routed still _
  · have one : ∀ event : Counted, event = .sendsSucceeded ∨ event = .sendsFailed ∨
        event = .sendsUnroutable → [event].count .sendsSucceeded + [event].count .sendsFailed +
          [event].count .sendsUnroutable = 1 := by
      rintro _ (rfl | rfl | rfl) <;> rfl
    exact told ▸ one _ outcomes

/-- An errand that counts what it answers keeps the accounts if it keeps the tables in balance and
is no dispatch. -/
private theorem accounts_of_counts {errand : Errand} (other : errand.isDispatch = false)
    (counts : Zone.Counts (fun answer events => events = errand.counted answer) errand.work)
    {zone : Zone} (tables : errand.work.Attains Zone.passUntil (fun answer after =>
      Zone.Balanced (errand.counted answer) zone after) zone) :
    errand.work.Attains Zone.passUntil (fun answer after => errand.Accounts answer zone after)
      zone := by
  obtain ⟨answer, after, ran, balanced⟩ := tables
  obtain ⟨_, rfl, gains⟩ := counts zone answer after ran
  have noDispatch : ∀ batch, errand ≠ .dispatch batch := by
    rintro batch rfl
    cases other
  have careful : errand.work.Ensures Zone.passUntil
      (fun _ after => Fleet.Spares zone.fleet after.fleet) zone := by
    refine (Zone.errand_careful noDispatch).spares.ensures (fun zone => .refl zone.fleet)
      (fun early late => early.trans late) (fun moment zone => ?_) zone
    exact .refl zone.fleet
  have spares := careful answer after ran
  have unsent : (errand.counted answer).count .sendsSucceeded = 0 ∧
      (errand.counted answer).count .sendsFailed = 0 ∧
      (errand.counted answer).count .sendsUnroutable = 0 := by
    cases errand with
    | dispatch batch => cases other
    | reload | reconcileClusters | reconcileTopics | reclaim | close =>
      cases answer <;>
        simp [counted, Summary.count_counted, List.map_const', List.count_replicate]
  refine ⟨answer, after, ran, gains, balanced, ?_, ?_⟩
  · rw [spares.taken, unsent.1]
    rfl
  · rw [unsent.1, unsent.2.1, unsent.2.2, other]
    rfl

private theorem reload_accounts {zone : Zone} (sound : zone.Sound) :
    reload.work.Attains Zone.passUntil (fun answer after => reload.Accounts answer zone after)
      zone := by
  have told : ∀ result : Option Summary,
      reload.counted ((result.map Answer.summary).getD .nothing) =
        (result.map Summary.counted).getD [] ++ [.reloads] := by
    rintro (_ | summary) <;> rfl
  refine accounts_of_counts rfl (Zone.reload_counts.bind ?_) ?_
  · rintro result _ rfl
    exact .done (by rw [told, List.append_nil])
  · refine attains_bind.mpr (((Zone.reload_attains sound.idle sound.apart).and
      (Zone.reload_answers sound.idle sound.apart)).mono ?_)
    rintro _ after ⟨⟨⟨middle, realigned, _, informed⟩, _⟩, rfl⟩
    refine attains_done.mpr ?_
    rw [told]
    obtain ⟨_, _, _, _, _, _, rfl⟩ := informed.rest
    exact (realigned.balances sound.apart).append (.of_same rfl rfl (by simp))

private theorem reconcileClusters_accounts {zone : Zone} (sound : zone.Sound) :
    reconcileClusters.work.Attains Zone.passUntil
      (fun answer after => reconcileClusters.Accounts answer zone after) zone := by
  have told : ∀ result : Except Fault Summary,
      reconcileClusters.counted (.ofExcept .summary result) =
        (result.toOption.map Summary.counted).getD [] := by
    rintro (_ | summary) <;> rfl
  have alone : Zone.Counts (fun result events => events =
      (result.toOption.map Summary.counted).getD []) Zone.reconcileClustersAlone :=
    .inside Zone.reconcileClusters_counts fun _ _ => rfl
  refine accounts_of_counts rfl (alone.bind ?_) ?_
  · rintro result _ rfl
    exact .done (by rw [told, List.append_nil])
  · refine attains_bind.mpr (((Zone.reconcileClustersAlone_realigns sound.idle sound.apart).and
      (Zone.reconcileClustersAlone_answers sound.idle sound.apart)).mono ?_)
    rintro _ after ⟨⟨realigned, _⟩, rfl⟩
    refine attains_done.mpr ?_
    rw [told]
    exact realigned.balances sound.apart

private theorem reconcileTopics_accounts {zone : Zone} (sound : zone.Sound) :
    reconcileTopics.work.Attains Zone.passUntil
      (fun answer after => reconcileTopics.Accounts answer zone after) zone := by
  refine accounts_of_counts rfl (Zone.reconcileTopicsAlone_counts.bind ?_) ?_
  · rintro result _ rfl
    exact .done rfl
  · refine attains_bind.mpr ((Zone.reconcileTopicsAlone_informs sound.idle).mono ?_)
    rintro _ after ⟨informed, _⟩
    obtain ⟨_, _, _, _, _, _, rfl⟩ := informed.rest
    exact attains_done.mpr (.of_same rfl rfl nofun)

private theorem reclaim_accounts {zone : Zone} (sound : zone.Sound) :
    reclaim.work.Attains Zone.passUntil (fun answer after => reclaim.Accounts answer zone after)
      zone := by
  refine accounts_of_counts rfl (Zone.reclaim_counts.bind ?_) ?_
  · rintro names _ rfl
    exact .done (List.append_nil _)
  · refine attains_bind.mpr ((Zone.reclaim_attains sound.idle).mono ?_)
    rintro _ after ⟨rfl, reclaimed, _⟩
    exact attains_done.mpr reclaimed.balances

/-- Every errand but a closing keeps the accounts. -/
theorem accounts {errand : Errand} (stays : errand ≠ .close) {zone : Zone}
    (agreed : zone.Agreed) (sound : zone.Sound) :
    errand.work.Attains Zone.passUntil (fun answer after => errand.Accounts answer zone after)
      zone := by
  cases errand with
  | reload => exact reload_accounts sound
  | reconcileClusters => exact reconcileClusters_accounts sound
  | reconcileTopics => exact reconcileTopics_accounts sound
  | reclaim => exact reclaim_accounts sound
  | dispatch batch => exact dispatch_accounts batch agreed sound
  | close => exact absurd rfl stays

/-- A reload counts itself, and nothing else counts reloads. -/
theorem count_reloads (errand : Errand) (answer : Answer) :
    (errand.counted answer).count .reloads = errand.isReload.toNat := by
  cases errand <;> cases answer <;>
    simp [counted, isReload, Summary.count_counted, List.map_const', List.count_replicate]
  rename_i fault
  cases fault <;> simp [Fault.counted]

end Errand

/-- Nothing that happens outside of a pool makes a producer take or lose a batch. -/
theorem Zone.Outside.taken {before after : Zone} (change : before.Outside after) :
    after.fleet.taken = before.fleet.taken := by
  obtain ⟨_, _, failsSends, failsStop, producers⟩ := change
  refine (Fleet.Spares.of_alike fun id => ?_).taken
  rw [producers id, Option.map_map]
  rfl

namespace Course

theorem total_cons (leg : Leg) (legs : List Leg) (event : Counted) :
    total (leg :: legs) event = leg.counted.count event + total legs event := by
  rw [total, List.flatMap_cons, List.count_append]
  rfl

/-- In every course without a closing, each counter but those of the mishaps is, as far as its width
goes, the number of what the answers to the errands tell. By these numbers as many clusters are
active as were created or rescued and did not retire since, and as many retire as did and were
neither rescued nor reclaimed; every dispatch has succeeded, failed or found no route; the producers
that were ever built have taken one batch for each success; and every reload is counted. -/
theorem counters_balance {legs : List Leg} {zone : Zone} (course : Course legs zone)
    (stays : ∀ leg ∈ legs, leg.errand ≠ .close) :
    (∀ event, event.isMishap = false →
      zone.tally.get event = UInt64.ofNat (total legs event)) ∧
    zone.active.size + total legs .producersRetired =
      total legs .producersCreated + total legs .producersRescued ∧
    zone.retiring.size + total legs .producersRescued + total legs .producersReclaimed =
      total legs .producersRetired ∧
    total legs .sendsSucceeded + total legs .sendsFailed + total legs .sendsUnroutable =
      legs.countP (·.errand.isDispatch) ∧
    total legs .sendsSucceeded = zone.fleet.taken ∧
    total legs .reloads = legs.countP (·.errand.isReload) := by
  induction course with
  | begin built _ =>
    obtain ⟨_, rfl⟩ := Zone.build_eq built
    refine ⟨fun event _ => ?_, rfl, rfl, rfl, rfl, rfl⟩
    cases event <;> rfl
  | outside course change ih =>
    obtain ⟨tally, active, retiring, sends, batches, reloads⟩ := ih stays
    have taken := change.taken
    obtain ⟨⟨_, _, _, rfl⟩, _, _⟩ := change
    exact ⟨tally, active, retiring, sends, batches.trans taken.symm, reloads⟩
  | @errand legs before after answer errand course ran ih =>
    obtain ⟨open_, stays⟩ := List.forall_mem_cons.mp stays
    obtain ⟨tally, active, retiring, sends, batches, reloads⟩ := ih stays
    have accounts : errand.Accounts answer before after :=
      (Errand.accounts open_ course.agreed course.sound).of_ran ran
    have told : (Leg.mk errand before after).counted = errand.counted answer :=
      Leg.counted_of_ran ran
    have reloaded := errand.count_reloads answer
    obtain ⟨gains, ⟨nowActive, nowRetiring⟩, taken, sent⟩ := accounts
    simp only [total_cons, told, List.countP_cons]
    refine ⟨fun event clean => ?_, by omega, by omega, ?_, by omega, ?_⟩
    · rw [gains event clean, tally event clean, ← UInt64.ofNat_add, Nat.add_comm]
    · cases dispatches : errand.isDispatch <;> simp [dispatches] at sent ⊢ <;> omega
    · cases reload : errand.isReload <;> simp [reload] at reloaded ⊢ <;> omega

/-- A batch comes too early and finds no route. Then two clusters are served, one of which leaves
for good after a batch was sent to it, and the other is away for a moment. -/
def season : List Leg × Zone :=
  let both : Inventory := { clusters := [{ name := "A" }, { name := "B" }] }
  let one : Inventory := { clusters := [{ name := "B" }] }
  let other : Inventory := { clusters := [{ name := "C" }] }
  errands blank [(both, 0, .dispatch none), (both, 0, .reload), (both, 0, .dispatch none),
    (one, 1000, .reload), (other, 61000, .reconcileClusters), (other, 62000, .reclaim),
    (one, 63000, .reload)]

private theorem season_course : Course season.1 season.2 := by
  have built : Zone.build { catalog := some (.inMemory [] .empty) } = .ok blank := rfl
  exact of_errands built rfl _

/-- Of three retirements one was followed by a rescue and one by a reclaiming, and the batch that
was taken is known from the producer that took it, which has stopped since. -/
theorem counters_balance_of_season : season.2.retiring.size + total season.1 .producersRescued +
      total season.1 .producersReclaimed = total season.1 .producersRetired ∧
    total season.1 .producersRetired = 3 ∧ season.2.tally.producersRetired = 3 ∧
    total season.1 .sendsSucceeded = season.2.fleet.taken ∧ season.2.fleet.taken = 1 := by
  have stays : ∀ leg ∈ season.1, leg.errand ≠ .close := by
    iterate 7 refine List.forall_mem_cons.mpr ⟨nofun, ?_⟩
    exact List.forall_mem_nil _
  obtain ⟨tally, _, retiring, _, taken, _⟩ := counters_balance season_course stays
  exact ⟨retiring, rfl, tally .producersRetired rfl, taken, rfl⟩

end Course
end ClusterPool
