import ClusterPool.Proofs.Program.Chronicle
import ClusterPool.Proofs.Program.Trace
import ClusterPool.Proofs.Zone.Custody
import ClusterPool.Zone.Dispatch

/-! Where batches go. A dispatch that answers a cluster has handed its batch to one producer, once,
at its very last moment, and a dispatch that fails has handed it to nobody. So the producers of a
zone hold exactly the batches whose dispatches have succeeded, whatever else was under way. -/
namespace ClusterPool
open Program

namespace Zone

/-- What a dispatch leaves that has ended: its batch and its outcome, and the zones that it found at
its moments, the last first. -/
structure Receipt where
  batch : Batch
  result : Except Fault String
  seen : List Zone

/-- The producer that has the batch of a successful dispatch: the one that was active for the
answered cluster when it was looked up, at the last moment but one. -/
def Receipt.taker (receipt : Receipt) : Option ProducerId :=
  match receipt.result, receipt.seen with
  | .ok cluster, _ :: lookedUp :: _ => (lookedUp.active.find? cluster).map (·.producer)
  | _, _ => none

/-- The receipt of a dispatch that has ended. -/
def sign (batch : Batch) (known : Except Fault String × List Zone) :
    Program Zone (Option Receipt) := .done (some ⟨batch, known.1, known.2⟩)

/-- A dispatch that leaves a receipt. -/
def delivery (batch : Batch) : Program Zone (Option Receipt) :=
  ((dispatch batch).remembering []).bind (sign batch)

/-- A dispatch that leaves a receipt is a dispatch, moment for moment. -/
theorem delivery_result (batch : Batch) :
    ((delivery batch).bind fun receipt => .done (receipt.map (·.result))) =
      (dispatch batch).bind fun result => .done (some result) := by
  have same := congrArg (Program.bind · fun result => Program.done (some result))
    ((dispatch batch).remembering_forgotten [])
  rw [Program.bind_assoc] at same
  rw [delivery, Program.bind_assoc]
  exact same

/-! What a dispatch does at its last moment, and does not do before. -/

/-- Nobody takes a batch. -/
def Spared (before after : Zone) : Prop := Fleet.Spares before.fleet after.fleet

/-- The last moment of a dispatch: its batch is sent through the taker, or through nobody. -/
def Delivers (receipt : Receipt) (before after : Zone) : Prop :=
  match receipt.result with
  | .ok _ => ∃ id, receipt.taker = some id ∧ (before.fleet.send id receipt.batch).1 = .ok () ∧
      after.fleet = (before.fleet.send id receipt.batch).2
  | .error fault => fault.isDispatch = true ∧ Spared before after

/-- The last moment of a party, by the receipt that it leaves or does not leave. -/
def Ends : Option Receipt → Zone → Zone → Prop
  | none => Spared
  | some receipt => Delivers receipt

/-- Work that goes on has had a moment at which nothing was delivered. -/
private theorem concludes_of_going {rest : Program Zone (Option Receipt)} {before after : Zone}
    (going : rest.value? = none) (spared : Spared before after) :
    rest.Concludes Spared Ends before after := by
  rw [Concludes, going]
  exact spared

/-- A producer only refuses a batch for a reason that is the sender's to know. -/
private theorem send_faults {producer : Producer} {batch : Batch} {fault : Fault}
    (refused : (producer.send batch).1 = .error fault) :
    fault.isDispatch = true ∧ (producer.send batch).2 = producer := by
  by_cases started : producer.phase = .started <;> cases fails : producer.failsSends <;>
    simp [Producer.send, Phase.ensureStarted, started, fails] at refused ⊢ <;> subst refused <;> rfl

private theorem send_spares {fleet : Fleet} {id : ProducerId} {batch : Batch} {fault : Fault}
    (refused : (fleet.send id batch).1 = .error fault) :
    fault.isDispatch = true ∧ Fleet.Spares fleet (fleet.send id batch).2 := by
  rw [Fleet.send_updates]
  unfold Fleet.send at refused
  cases found : fleet.find? id with
  | none => simp [found] at refused
  | some producer =>
    rw [found] at refused
    obtain ⟨dispatch, same⟩ := send_faults refused
    refine ⟨dispatch, ?_⟩
    rw [Fleet.update_unchanged fun other also => ?_]
    · exact .refl fleet
    · cases found.symm.trans also
      exact same

private theorem deliver_delivers (batch : Batch) (cluster : String) {slot : Slot} {looking : Zone}
    (found : looking.active.find? cluster = some slot) (earlier : List Zone) (zone : Zone) :
    Delivers ⟨batch, (deliver batch slot.producer zone).1.map fun _ => cluster,
      zone :: looking :: earlier⟩ zone (deliver batch slot.producer zone).2 := by
  have fleet : (deliver batch slot.producer zone).2.fleet =
      (zone.fleet.send slot.producer batch).2 := by
    unfold deliver withFleet
    dsimp only
    split <;> rfl
  cases sent : (zone.fleet.send slot.producer batch).1 with
  | ok _ =>
    have answer : (deliver batch slot.producer zone).1 = .ok () := by
      simp [deliver, withFleet, sent]
    rw [answer]
    exact ⟨slot.producer, by simp [Receipt.taker, Except.map, found], sent, fleet⟩
  | error fault =>
    have answer : (deliver batch slot.producer zone).1 = .error fault := by
      simp [deliver, withFleet, sent]
    obtain ⟨dispatch, spares⟩ := send_spares sent
    rw [answer]
    exact ⟨dispatch, by rw [Spared, fleet]; exact spares⟩

private theorem tryRoutes_settles (batch : Batch) (snapshot : Snapshot) (attempts : Nat)
    (seen : List Zone)
    {next : Option (Except Fault String) × List Zone → Program Zone (Option Receipt)}
    (missed : ∀ seen, (next (none, seen)).value? = none ∧ (next (none, seen)).Settles Spared Ends)
    (ended : ∀ result seen, next (some result, seen) = .done (some ⟨batch, result, seen⟩)) :
    (((tryRoutes batch snapshot attempts).remembering seen).bind next).value? = none ∧
      (((tryRoutes batch snapshot attempts).remembering seen).bind next).Settles Spared Ends := by
  induction attempts generalizing seen with
  | zero => exact missed seen
  | succ attempts ih =>
    refine ⟨rfl, fun picking => ⟨.refl _, fun looking => ?_⟩⟩
    dsimp only
    generalize (withRotation (fun rotation => rotation.pick snapshot) picking).1 = cluster
    cases found : looking.active.find? cluster with
    | none =>
      have looked : lookUp cluster looking =
          (none, (looking.count .routingMisses).report (.routingMissed cluster)) := by
        rw [lookUp, found]
      rw [looked]
      obtain ⟨going, settles⟩ := ih (looking :: picking :: seen)
      exact ⟨.refl _, fun state => concludes_of_going going (.refl _), settles⟩
    | some slot =>
      have looked : lookUp cluster looking = (some slot.producer, looking) := by rw [lookUp, found]
      rw [looked]
      refine ⟨.refl _, fun delivering => ?_⟩
      have last := ended ((deliver batch slot.producer delivering).1.map fun _ => cluster)
        (delivering :: looking :: picking :: seen)
      change (next _).Concludes Spared Ends _ _ ∧ (next _).Settles Spared Ends
      rw [last]
      exact ⟨deliver_delivers batch cluster found _ delivering, trivial⟩

private theorem dispatchFrom_settles (batch : Batch) (attempts : Nat) (snapshot : Snapshot)
    (seen : List Zone) :
    (((dispatchFrom batch attempts snapshot).remembering seen).bind (sign batch)).value? = none ∧
      (((dispatchFrom batch attempts snapshot).remembering seen).bind (sign batch)).Settles Spared
        Ends := by
  induction attempts generalizing snapshot seen with
  | zero => exact ⟨rfl, fun zone => ⟨⟨rfl, .refl _⟩, trivial⟩⟩
  | succ attempts ih =>
    simp only [dispatchFrom, bind_eq_bind, remembering_bind, Program.bind_assoc]
    refine tryRoutes_settles batch snapshot _ seen (fun seen => ⟨rfl, fun looking => ?_⟩)
      fun result seen => rfl
    dsimp only
    rw [show ∀ next : Zone → Program Zone (Except Fault String),
      (Program.done looking).bind next = next looking from fun _ => rfl]
    split
    · exact ⟨.refl _, fun last => ⟨⟨rfl, .refl _⟩, trivial⟩⟩
    · obtain ⟨going, settles⟩ := ih looking.rotation.current (looking :: seen)
      exact ⟨concludes_of_going going (.refl _), settles⟩

theorem delivery_settles (batch : Batch) :
    (delivery batch).value? = none ∧ (delivery batch).Settles Spared Ends := by
  refine ⟨rfl, fun seen => ?_⟩
  obtain ⟨going, settles⟩ :=
    dispatchFrom_settles batch snapshotAttempts seen.rotation.current [seen]
  exact ⟨concludes_of_going going (.refl _), settles⟩

/-! What the receipts say about the producers. -/

/-- The receipts among what the parties left. -/
def receipts (told : List (Option Receipt)) : List Receipt := told.filterMap id

/-- The batches that a producer has by these receipts, in the order in which their dispatches
ended. -/
def takenBy (id : ProducerId) (receipts : List Receipt) : List Batch :=
  (receipts.filter fun receipt => receipt.taker = some id).map (·.batch)

/-- A success has a taker, and a failure is one of sending and has none. -/
def Receipt.Valid (receipt : Receipt) (zone : Zone) : Prop :=
  match receipt.result with
  | .ok _ => ∃ id, receipt.taker = some id ∧ Exists id zone
  | .error fault => receipt.taker = none ∧ fault.isDispatch = true

/-- Every producer has what the receipts say. -/
structure Accounted (told : List (Option Receipt)) (zone : Zone) : Prop where
  sent : ∀ id producer, zone.fleet.find? id = some producer →
    producer.sent = takenBy id (receipts told)
  valid : ∀ receipt ∈ receipts told, receipt.Valid zone

theorem receipts_snoc (told : List (Option Receipt)) (left : Option Receipt) :
    receipts (told ++ [left]) = receipts told ++ left.toList := by
  cases left <;> simp [receipts]

theorem takenBy_snoc (id : ProducerId) (receipts : List Receipt) (last : Receipt) :
    takenBy id (receipts ++ [last]) =
      takenBy id receipts ++ if last.taker = some id then [last.batch] else [] := by
  by_cases same : last.taker = some id <;> simp [takenBy, List.filter_append, same]

theorem Receipt.Valid.lasts {receipt : Receipt} {before after : Zone} (valid : receipt.Valid before)
    (lasts : Lasts before after) : receipt.Valid after := by
  unfold Receipt.Valid at valid ⊢
  split
  · rename_i answered
    rw [answered] at valid
    obtain ⟨id, taken, producer, found⟩ := valid
    exact ⟨id, taken, lasts id producer found⟩
  · rename_i failed
    rw [failed] at valid
    exact valid

/-- A taker that an earlier zone had active is still there. -/
theorem Receipt.taker_exists {receipt : Receipt} {zone : Zone} {id : ProducerId}
    (taken : receipt.taker = some id)
    (recalls : ∀ former ∈ receipt.seen, former.Anchored ∧ Lasts former zone) : Exists id zone := by
  unfold Receipt.taker at taken
  split at taken
  · rename_i cluster last lookedUp earlier _ seen
    obtain ⟨slot, active, rfl⟩ := Option.map_eq_some_iff.mp taken
    obtain ⟨anchored, lasts⟩ := recalls lookedUp (by simp [seen])
    obtain ⟨producer, found⟩ := anchored cluster slot (.inl active)
    exact lasts _ producer found
  · cases taken

namespace Accounted

/-- Nobody has taken a batch whose number there was not. -/
private theorem takenBy_none {told : List (Option Receipt)} {zone : Zone}
    (accounted : Accounted told zone) {id : ProducerId} (absent : zone.fleet.find? id = none) :
    takenBy id (receipts told) = [] := by
  rw [takenBy, List.map_eq_nil_iff, List.filter_eq_nil_iff]
  intro receipt member taken
  have valid := accounted.valid receipt member
  unfold Receipt.Valid at valid
  split at valid
  · obtain ⟨taker, same, producer, found⟩ := valid
    cases same.symm.trans (of_decide_eq_true taken)
    rw [absent] at found
    cases found
  · rw [valid.1] at taken
    cases taken

theorem spared {told : List (Option Receipt)} {before after : Zone}
    (accounted : Accounted told before) (spared : Spared before after) :
    Accounted told after where
  sent id producer found := by
    cases earlier : before.fleet.find? id with
    | none => rw [spared.unused id producer earlier found, accounted.takenBy_none earlier]
    | some former =>
      obtain ⟨latter, later, same⟩ := spared.lasts id former earlier
      cases later.symm.trans found
      rw [same, accounted.sent id former earlier]
  valid receipt member := (accounted.valid receipt member).lasts fun id producer found => by
    obtain ⟨latter, later, _⟩ := spared.lasts id producer found
    exact ⟨latter, later⟩

end Accounted

/-- A producer that accepts a batch has it from then on. -/
private theorem send_accepts {fleet : Fleet} {id : ProducerId} {producer : Producer} {batch : Batch}
    (found : fleet.find? id = some producer) (accepted : (fleet.send id batch).1 = .ok ()) :
    (producer.send batch).2.sent = producer.sent ++ [batch] := by
  simp only [Fleet.send, found] at accepted
  rw [Producer.send_keeps]
  by_cases started : producer.phase = .started <;> cases fails : producer.failsSends <;>
    simp_all [Producer.send, Phase.ensureStarted]

namespace Accounted

/-- The end of a dispatch is accounted for by its receipt. -/
theorem delivered {told : List (Option Receipt)} {before after : Zone} {receipt : Receipt}
    (accounted : Accounted told before) (delivers : Delivers receipt before after)
    (recalls : ∀ former ∈ receipt.seen, former.Anchored ∧ Lasts former after) :
    Accounted (told ++ [some receipt]) after := by
  have both : receipts (told ++ [some receipt]) = receipts told ++ [receipt] := receipts_snoc _ _
  have extended : ∀ {zone : Zone}, (∀ earlier ∈ receipts told, earlier.Valid zone) →
      receipt.Valid zone → ∀ other ∈ receipts (told ++ [some receipt]), other.Valid zone := by
    intro zone all last other member
    rw [both] at member
    rcases List.mem_append.mp member with earlier | new
    · exact all other earlier
    · exact List.mem_singleton.mp new ▸ last
  unfold Delivers at delivers
  split at delivers
  · rename_i answered
    obtain ⟨id, taken, accepted, fleet⟩ := delivers
    rw [Fleet.send_updates] at fleet
    have lasts : Lasts before after := fun other producer found => by
      rw [fleet, Fleet.find?_update, found]
      split <;> exact ⟨_, rfl⟩
    refine ⟨fun other producer found => ?_, extended (fun earlier member =>
      (accounted.valid earlier member).lasts lasts) ?_⟩
    · rw [both, takenBy_snoc, taken]
      rw [fleet, Fleet.find?_update] at found
      split at found
      · rename_i same
        obtain ⟨former, earlier, rfl⟩ := Option.map_eq_some_iff.mp found
        rw [same] at accepted
        rw [send_accepts earlier accepted, accounted.sent other former earlier]
        simp [same]
      · rename_i differs
        rw [accounted.sent other producer found]
        simp [differs]
    · rw [Receipt.Valid, answered]
      exact ⟨id, taken, receipt.taker_exists taken recalls⟩
  · rename_i failed
    obtain ⟨dispatch, spared⟩ := delivers
    obtain ⟨sent, valid⟩ := accounted.spared spared
    have nobody : receipt.taker = none := by simp [Receipt.taker, failed]
    refine ⟨fun id producer found => ?_, extended valid ?_⟩
    · rw [both, takenBy_snoc, nobody, sent id producer found]
      simp
    · rw [Receipt.Valid, failed]
      exact ⟨nobody, dispatch⟩

end Accounted

/-- One value more at one of several places is one value more in all. -/
private theorem flatMap_extra {places : List Nat} (once : places.Nodup) {place : Nat}
    (member : place ∈ places) (values : Nat → List β) (extra : β) :
    (places.flatMap fun other => if other = place then extra :: values other else values other).Perm
      (extra :: places.flatMap values) := by
  induction places with
  | nil => cases member
  | cons first rest ih =>
    obtain ⟨absent, once⟩ := List.nodup_cons.mp once
    rw [List.flatMap_cons, List.flatMap_cons]
    by_cases same : first = place
    · subst same
      have others : (rest.flatMap fun other =>
          if other = first then extra :: values other else values other) = rest.flatMap values := by
        have kept : ∀ other ∈ rest,
            (if other = first then extra :: values other else values other) = values other :=
          fun other inside => if_neg fun (same : other = first) => absent (same ▸ inside)
        rw [List.flatMap_def, List.map_congr_left kept, ← List.flatMap_def]
      rw [if_pos rfl, others]
      exact .refl _
    · rw [if_neg same]
      have later := ih once ((List.mem_cons.mp member).resolve_left (Ne.symm same))
      exact (later.append_left _).trans List.perm_middle

/-- What all producers have are the batches of the receipts with a taker. -/
private theorem takenBy_perm {receipts : List Receipt} {length : Nat}
    (known : ∀ receipt ∈ receipts, ∀ id, receipt.taker = some id → id < length) :
    ((List.range length).flatMap fun id => takenBy id receipts).Perm
      ((receipts.filter fun receipt => receipt.taker.isSome).map (·.batch)) := by
  induction receipts with
  | nil => simp [takenBy]
  | cons receipt rest ih =>
    have others := ih fun receipt member => known receipt (List.mem_cons_of_mem _ member)
    cases taken : receipt.taker with
    | none =>
      have same : ∀ id, takenBy id (receipt :: rest) = takenBy id rest := fun id => by
        simp [takenBy, taken]
      simpa [same, taken] using others
    | some taker =>
      have more : ∀ id, takenBy id (receipt :: rest) =
          if id = taker then receipt.batch :: takenBy id rest else takenBy id rest := fun id => by
        by_cases same : id = taker
        · simp [takenBy, taken, same]
        · simp [takenBy, taken, same, Ne.symm same]
      have inside := List.mem_range.mpr (known receipt List.mem_cons_self taker taken)
      simp only [more, List.filter_cons, taken, Option.isSome_some, if_true, List.map_cons]
      exact (flatMap_extra List.nodup_range inside _ _).trans (others.cons _)

theorem Accounted.perm {told : List (Option Receipt)} {zone : Zone}
    (accounted : Accounted told zone) : (zone.fleet.producers.flatMap (·.sent)).Perm
      (((receipts told).filter (·.result.toBool)).map (·.batch)) := by
  have each : zone.fleet.producers.map (·.sent) =
      (List.range zone.fleet.producers.length).map fun id => takenBy id (receipts told) := by
    refine List.ext_getElem (by simp) fun id inside _ => ?_
    have inside : id < zone.fleet.producers.length := by simpa using inside
    simpa using accounted.sent id _ (List.getElem?_eq_getElem inside)
  have known : ∀ receipt ∈ receipts told, ∀ id, receipt.taker = some id →
      id < zone.fleet.producers.length := by
    intro receipt member id taken
    have valid := accounted.valid receipt member
    unfold Receipt.Valid at valid
    split at valid
    · obtain ⟨taker, same, producer, found⟩ := valid
      cases same.symm.trans taken
      exact (List.getElem?_eq_some_iff.mp found).1
    · cases valid.1.symm.trans taken
  have successes : (receipts told).filter (fun receipt => receipt.taker.isSome) =
      (receipts told).filter (·.result.toBool) := by
    refine List.filter_congr fun receipt member => ?_
    have valid := accounted.valid receipt member
    unfold Receipt.Valid at valid
    split at valid
    · rename_i answered
      obtain ⟨taker, taken, _⟩ := valid
      simp [taken, answered, Except.toBool]
    · rename_i failed
      simp [valid.1, failed, Except.toBool]
  rw [List.flatMap_def, each, ← List.flatMap_def, ← successes]
  exact takenBy_perm known

/-! Dispatches among everything else that can be asked of a pool. -/

/-- What parties come with: a dispatch, which leaves a receipt, or any other errand, which leaves
nothing. -/
inductive Employed : Program Zone (Option Receipt) → Prop
  | dispatch (batch : Batch) : Employed (delivery batch)
  | errand {errand : Errand} (other : ∀ batch, errand ≠ .dispatch batch) :
    Employed (errand.work.bind fun _ => .done none)

/-- What a party has seen when it leaves a receipt: zones in which only producers of the fleet were
held, none of which got lost since. -/
def Recalls (left : Option Receipt) (zone : Zone) : Prop :=
  ∀ receipt, left = some receipt → ∀ former ∈ receipt.seen, former.Anchored ∧ Lasts former zone

private theorem Steady.lasts {before after : Zone} (steady : Steady before after) :
    Lasts before after := fun _ _ found => by
  obtain ⟨latter, later, _⟩ := steady.producers.later found
  exact ⟨latter, later⟩

private theorem Steady.anchored {before after : Zone} (steady : Steady before after)
    (anchored : before.Anchored) : after.Anchored := by
  intro name slot holds
  have held : before.Holds name slot := by
    obtain ⟨_, _, _, _, _, rfl⟩ := steady.rest
    exact holds
  obtain ⟨producer, found⟩ := anchored name slot held
  exact steady.lasts _ producer found

private theorem delivery_keeps (batch : Batch) (zone : Zone) :
    (delivery batch).Keeps anchorage (fun left _ after => Recalls left after) (fun _ _ => True) ()
      zone := by
  have moves : ∀ before after, Steady before after →
      anchorage.move () before () after ∧ anchorage.rely () before after :=
    fun _ _ steady => ⟨⟨steady.lasts, steady.anchored⟩, steady.lasts⟩
  have past : ∀ former ∈ ([] : List Zone), anchorage.lawful former ∧ anchorage.rely () former zone :=
    fun _ member => absurd member List.not_mem_nil
  have remembers := (dispatch_promptly batch).within.remembers moves past
  refine Keeps.bind (remembers.mono ?_ fun _ _ given => given)
  intro known _ after past later lasts receipt isReceipt former member
  cases isReceipt
  exact (past former member).imp_right fun since => anchorage.rely_trans since lasts

theorem Employed.keeps {work : Program Zone (Option Receipt)} (employed : Employed work)
    (zone : Zone) :
    work.Keeps anchorage (fun left _ after => Recalls left after) (fun _ _ => True) () zone := by
  cases employed with
  | dispatch batch => exact delivery_keeps batch zone
  | errand other =>
    refine Keeps.bind (((errand_careful other).heeds zone).mono ?_ fun _ _ given => given)
    intro _ _ _ _ _ _ receipt isReceipt
    cases isReceipt

theorem Employed.settles {work : Program Zone (Option Receipt)} (employed : Employed work) :
    (∀ zone, work.Concludes Spared Ends zone zone) ∧ work.Settles Spared Ends := by
  cases employed with
  | dispatch batch =>
    obtain ⟨going, settles⟩ := delivery_settles batch
    exact ⟨fun zone => concludes_of_going going (.refl _), settles⟩
  | errand other =>
    exact (errand_careful other).spares.settles (fun zone => .refl zone.fleet) fun _ _ spared => spared

/-- However the errands of a pool fall between each other, and whatever changes around it meanwhile
apart from what producers have taken: each producer has, in the order in which their dispatches came
to their ends, exactly the batches whose receipts name it as their taker. A dispatch that answers a
cluster has a taker, and a dispatch that fails has none and a fault of sending. All producers
together, whether they still run or not, have the batches of the successful dispatches. The
chronicle has the receipts of all dispatches that have ended; no moment of a dispatch touches the
tables, the names of the routes, the topics, or the life of a producer; and to leave a receipt makes
no difference to a dispatch. -/
theorem exactly_once {plan : Plan} {zone : Zone} (built : build plan = .ok zone)
    {told : List (Option Receipt)} {crowd : Crowd Zone (Option Receipt)}
    (chronicle : Crowd.Chronicle discreet Employed zone told crowd) :
    (∀ id producer, crowd.state.fleet.find? id = some producer →
      producer.sent = takenBy id (receipts told)) ∧
    (∀ receipt ∈ receipts told, receipt.Valid crowd.state) ∧
    (crowd.state.fleet.producers.flatMap (·.sent)).Perm
      (((receipts told).filter (·.result.toBool)).map (·.batch)) ∧
    told.Perm (crowd.parties.filterMap value?) ∧
    ∀ batch, (Zone.dispatch batch).Within Steady ∧
      ((delivery batch).bind fun receipt => .done (receipt.map (·.result))) =
        (Zone.dispatch batch).bind fun result => .done (some result) := by
  have accounted : Accounted told crowd.state := by
    obtain ⟨_, rfl⟩ := build_eq built
    refine chronicle.accounts Accounted (fun _ employed => employed.keeps)
      (fun _ employed => employed.settles) ?_ trivial ⟨nofun, nofun⟩ ?_ ?_
    · rintro name slot (active | retires)
      · cases active
      · cases retires
    · rintro told before after (spared | ⟨spared, _⟩) accounted
      · exact accounted.spared spared
      · exact accounted.spared spared
    · intro told left _ before after ends recalls accounted
      cases left with
      | none =>
        obtain ⟨sent, valid⟩ := accounted.spared ends
        exact ⟨by simpa [receipts] using sent, by simpa [receipts] using valid⟩
      | some receipt => exact accounted.delivered ends (recalls receipt rfl)
  exact ⟨accounted.sent, accounted.valid, accounted.perm, chronicle.complete,
    fun batch => ⟨(dispatch_promptly batch).within, delivery_result batch⟩⟩

/-- The catalog announces one cluster, and a newcomer reloads while the others rest. -/
def takeover (cluster : String) (run : List (Option Receipt) × Crowd Zone (Option Receipt)) :
    List (Option Receipt) × Crowd Zone (Option Receipt) :=
  let announced := run.2.state.announce { clusters := [{ name := cluster }], topics := .empty }
  Crowd.follow discreet run.2.parties.length 32
    (run.1, ⟨announced, run.2.parties ++ [Errand.reload.work.bind fun _ => .done none]⟩)

private theorem takeover_chronicle {start : Zone}
    (run : List (Option Receipt) × Crowd Zone (Option Receipt))
    (chronicle : Crowd.Chronicle discreet Employed start run.1 run.2) (cluster : String) :
    Crowd.Chronicle discreet Employed start (takeover cluster run).1 (takeover cluster run).2 := by
  have change : discreet.changes run.2.state (run.2.state.announce
      { clusters := [{ name := cluster }], topics := .empty }) := ⟨.refl _, _, _, _, rfl⟩
  have announced := chronicle.outside change
  exact (announced.join (.errand (by simp)) rfl).follow _ _

/-- A dispatch takes a snapshot with one cluster, which is replaced by another one before the
dispatch looks it up. -/
def handover : List (Option Receipt) × Crowd Zone (Option Receipt) :=
  let first := Crowd.follow discreet 0 1
    (takeover "A" ([], ⟨Course.blank, [delivery {}]⟩))
  Crowd.follow discreet 0 7 (takeover "B" first)

private theorem handover_chronicle :
    Crowd.Chronicle discreet Employed Course.blank handover.1 handover.2 := by
  have joined : Crowd.Chronicle discreet Employed Course.blank [] ⟨Course.blank, [delivery {}]⟩ :=
    Crowd.Chronicle.start.join (.dispatch {}) rfl
  have first := (takeover_chronicle ([], _) joined "A").follow 0 1
  exact (takeover_chronicle _ first "B").follow 0 7

set_option maxRecDepth 4000 in
/-- The dispatch misses the first cluster and is taken by the second, once. -/
theorem exactly_once_of_handover :
    (receipts handover.1).map (fun receipt => (receipt.result.toOption, receipt.taker)) =
      [(some "B", some 1)] ∧
    handover.2.state.tally.routingMisses = 1 ∧
    (handover.2.state.fleet.find? 0).map (·.sent) = some [] ∧
    (handover.2.state.fleet.find? 1).map (·.sent) = some [{}] := by
  have built : build { catalog := some (.inMemory [] .empty) } = .ok Course.blank := rfl
  obtain ⟨sent, _⟩ := exactly_once built handover_chronicle
  refine ⟨rfl, rfl, ?_, ?_⟩
  · obtain ⟨producer, found⟩ : ∃ producer, handover.2.state.fleet.find? 0 = some producer :=
      ⟨_, rfl⟩
    rw [found, Option.map_some, sent 0 producer found]
    rfl
  · obtain ⟨producer, found⟩ : ∃ producer, handover.2.state.fleet.find? 1 = some producer :=
      ⟨_, rfl⟩
    rw [found, Option.map_some, sent 1 producer found]
    rfl

end Zone
end ClusterPool
