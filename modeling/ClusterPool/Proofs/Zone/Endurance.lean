import ClusterPool.Proofs.Program.Endurance
import ClusterPool.Proofs.Stage.Turning

/-! The turns of background tasks are not given up while the clock can be read. Nothing else that
goes wrong in a turn ends it: a catalog that fails, a producer that is refused or that fails, and a
publication that is refused are reported, and the turn goes on. Where nobody else comes to the gates,
it waits for nothing but moments, and comes to its end. -/
namespace ClusterPool

/-- Nobody is inside or waits, but for the holder of this ticket. -/
def Turnstile.HeldBy (ticket : Option Nat) (turnstile : Turnstile) : Prop :=
  match ticket with
  | none => turnstile.issued = turnstile.served
  | some ticket => turnstile.served = ticket ∧ turnstile.issued = ticket + 1

namespace Turnstile.HeldBy

variable {turnstile : Turnstile}

theorem enter (free : turnstile.HeldBy none) : turnstile.enter.HeldBy (some turnstile.issued) :=
  ⟨Eq.symm free, rfl⟩

theorem leave {ticket : Nat} (held : turnstile.HeldBy (some ticket)) : turnstile.leave.HeldBy none :=
  held.2.trans (congrArg (· + 1) held.1.symm)

end Turnstile.HeldBy

namespace Zone
open Program

/-- The clock can be read. -/
def Readable (zone : Zone) : Prop := zone.clock.broken = false

/-- The tickets of the two gates that a task holds in its turn. -/
structure Tickets where
  reload : Option Nat := none
  book : Option Nat := none

/-- Nobody but the holder of these tickets is at the gates. -/
structure Tickets.Fit (tickets : Tickets) (zone : Zone) : Prop where
  reload : zone.reloading.HeldBy tickets.reload
  book : zone.bookkeeping.HeldBy tickets.book

/-- Others do what they like, except that they leave the clock readable. -/
def amidOthers : Prospect Zone Tickets where
  finds _ zone := zone.Readable
  ends _ _ := True

/-- Nobody else comes to the gates. Then nobody has to wait for others, but only for moments. -/
def undisturbed : Prospect Zone Tickets where
  finds tickets zone := zone.Readable ∧ tickets.Fit zone
  ends wake _ := wake.alarm.isSome = true

/-- What a turn has to expect lets it read the clock, wait for moments and pass the gates. -/
structure Lenient (prospect : Prospect Zone Tickets) : Prop where
  readable : ∀ {tickets zone}, prospect.finds tickets zone → zone.Readable
  still : ∀ {tickets before after}, prospect.finds tickets before → after.Readable →
    after.reloading = before.reloading → after.bookkeeping = before.bookkeeping →
    prospect.finds tickets after
  alarm : ∀ tickets moment, prospect.ends { alarm := some moment } tickets
  reload : ∀ tickets : Tickets, tickets.reload = none →
    prospect.Admits reloadGate tickets fun ticket => { tickets with reload := some ticket }
  book : ∀ tickets : Tickets, tickets.book = none →
    prospect.Admits bookGate tickets fun ticket => { tickets with book := some ticket }

theorem amidOthers_lenient : Lenient amidOthers where
  readable found := found
  still _ readable _ _ := readable
  alarm _ _ := trivial
  reload _ _ := ⟨fun _ found => found, fun _ => .inr trivial, fun _ _ found => found⟩
  book _ _ := ⟨fun _ found => found, fun _ => .inr trivial, fun _ _ found => found⟩

theorem undisturbed_lenient : Lenient undisturbed where
  readable found := found.1
  still found readable reloading bookkeeping :=
    ⟨readable, reloading ▸ found.2.reload, bookkeeping ▸ found.2.book⟩
  alarm _ _ := rfl
  reload tickets none := {
    enters := fun zone found => by
      have free : zone.reloading.HeldBy Option.none := none ▸ found.2.reload
      exact ⟨found.1, free.enter, found.2.book⟩
    waits := fun _ => .inl fun _ found => found.2.reload.1
    leaves := fun _ _ found => ⟨found.1, none ▸ found.2.reload.leave, found.2.book⟩ }
  book tickets none := {
    enters := fun zone found => by
      have free : zone.bookkeeping.HeldBy Option.none := none ▸ found.2.book
      exact ⟨found.1, found.2.reload, free.enter⟩
    waits := fun _ => .inl fun _ found => found.2.book.1
    leaves := fun _ _ found => ⟨found.1, found.2.reload, none ▸ found.2.book.leave⟩ }

variable {prospect : Prospect Zone Tickets} (lenient : Lenient prospect) {tickets : Tickets}
include lenient

/-- What nobody notices changes nothing about it. -/
theorem Lenient.discreet {before after : Zone} (still : Discreet before after)
    (found : prospect.finds tickets before) : prospect.finds tickets after :=
  lenient.still found ((congrArg Clock.broken still.clock).trans (lenient.readable found))
    still.reloading still.bookkeeping

private theorem modify_endures {change : Zone → Zone} (still : ∀ zone, Discreet zone (change zone)) :
    (modify change).Endures prospect tickets tickets :=
  endures_modify fun zone found => lenient.discreet (still zone) found

private theorem perform_endures {action : Zone → α × Zone}
    (still : ∀ zone, Discreet zone (action zone).2) :
    (perform action).Endures prospect tickets tickets :=
  endures_perform fun zone found => lenient.discreet (still zone) found

/-- Reports and counts are all that is changed. -/
private theorem noting_endures {change : Zone → Zone}
    (notes : ∀ zone, ∃ tally journal, change zone = { zone with tally, journal }) :
    (modify change).Endures prospect tickets tickets := by
  refine modify_endures lenient fun zone => ?_
  obtain ⟨_, _, same⟩ := notes zone
  rw [same]
  exact ⟨⟨rfl, rfl⟩, rfl, rfl⟩

private theorem rest_endures (ms : Nat) : (rest ms).Endures prospect tickets tickets := by
  unfold rest
  split
  · exact endures_done
  · exact endures_get.bind fun _ => endures_sleepUntil (lenient.alarm _ _)

private theorem readClock_endures : readClock.Endures prospect tickets tickets := by
  intro zone found
  refine ⟨tickets, found, ?_⟩
  change (if zone.clock.broken = true then crash else done zone.clock.now).Endures _ _ _
  rw [if_neg (Bool.eq_false_iff.mp (lenient.readable found))]
  exact endures_done

private theorem fetch_endures (part : Inventory → α) :
    (fetch part).Endures prospect tickets tickets := by
  refine endures_get.bind fun zone => ?_
  dsimp only
  split
  · exact (endures_sleepUntil (lenient.alarm _ _)).bind fun _ => endures_get.bind fun _ =>
      endures_done
  · exact endures_get.bind fun _ => endures_done

private theorem startProducer_endures (id : ProducerId) :
    (startProducer id).Endures prospect tickets tickets :=
  Endures.bind (modify_endures lenient fun _ => ⟨⟨rfl, rfl⟩, rfl, rfl⟩) fun _ =>
    endures_get.bind fun _ => (rest_endures lenient _).bind fun _ =>
      perform_endures lenient (finishStart_discreet id)

private theorem stopProducer_endures (cluster : String) (id : ProducerId) (role : Role) :
    (stopProducer cluster id role).Endures prospect tickets tickets :=
  (perform_endures lenient fun _ => ⟨⟨rfl, rfl⟩, rfl, rfl⟩).bind fun _ => endures_get.bind fun _ =>
    (rest_endures lenient _).bind fun _ => endures_done

private theorem reportStop_endures (stop : StopReport) :
    (modify (reportStop stop)).Endures prospect tickets tickets :=
  noting_endures lenient fun zone => by
    unfold reportStop
    split <;> exact ⟨_, _, rfl⟩

private theorem createProducer_endures (topics : NameSet) (cluster : Cluster) :
    (createProducer topics cluster).Endures prospect tickets tickets := by
  refine (perform_endures lenient fun _ => ⟨⟨rfl, rfl⟩, rfl, rfl⟩).bind fun requested => ?_
  cases requested with
  | error fault => exact endures_done
  | ok id =>
    refine (startProducer_endures lenient id).bind fun started => ?_
    cases started with
    | error fault => exact endures_done
    | ok _ =>
      exact Endures.bind (modify_endures lenient fun zone =>
        (publishFirst_discreet topics cluster id zone).trans ⟨⟨rfl, rfl⟩, rfl, rfl⟩)
          fun _ => endures_done

private theorem createAll_endures (topics : NameSet) (creation : Creation) (missing : List Cluster) :
    (createAll topics creation missing).Endures prospect tickets tickets := by
  induction missing generalizing creation with
  | nil => exact endures_done
  | cons cluster rest ih =>
    refine (createProducer_endures lenient topics cluster).bind fun result => ?_
    cases result with
    | error fault => exact (noting_endures lenient fun _ => ⟨_, _, rfl⟩).bind fun _ => ih _
    | ok id =>
      refine (readClock_endures lenient).bind fun now =>
        (perform_endures lenient (activate_discreet cluster id now)).bind fun activated => ?_
      cases activated with
      | true => exact ih _
      | false =>
        exact (noting_endures lenient fun _ => ⟨_, _, rfl⟩).bind fun _ =>
          (stopProducer_endures lenient _ id _).bind fun _ =>
            (reportStop_endures lenient _).bind fun _ => ih _

/-- Bringing the clusters in line passes the gate of the tables. -/
private theorem adopt_endures (order : List Cluster) (away : tickets.book = none) :
    (adopt order).Endures prospect tickets tickets := by
  refine Endures.bind ?_ fun division => endures_get.bind fun seen => ?_
  · exact (lenient.book tickets away).inside fun _ => (readClock_endures lenient).bind fun now =>
      perform_endures lenient (divide_discreet now order)
  refine (createAll_endures lenient _ _ _).bind fun creation => endures_get.bind fun chosen =>
    (perform_endures lenient fun _ => ⟨⟨rfl, rfl⟩, rfl, rfl⟩).bind fun changed => ?_
  refine Endures.bind ?_ fun removed => endures_get.bind fun seen => ?_
  · exact (lenient.book tickets away).inside fun _ => (readClock_endures lenient).bind fun now =>
      perform_endures lenient fun _ => ⟨⟨rfl, rfl⟩, rfl, rfl⟩
  exact (modify_endures lenient (conclude_discreet _)).bind fun _ => endures_done

private theorem reconcileClusters_endures (away : tickets.book = none) :
    reconcileClusters.Endures prospect tickets tickets := by
  refine (fetch_endures lenient Inventory.clusters).bind fun fetched => ?_
  cases fetched with
  | error fault => exact endures_done
  | ok clusters =>
    refine endures_get.bind fun seen => ?_
    dsimp only
    split
    · exact (noting_endures lenient fun _ => ⟨_, _, rfl⟩).bind fun _ => endures_done
    · exact (adopt_endures lenient _ away).bind fun _ => endures_done

private theorem reconcileTopics_endures : reconcileTopics.Endures prospect tickets tickets := by
  refine (fetch_endures lenient Inventory.topics).bind fun fetched => ?_
  cases fetched with
  | error fault => exact endures_done
  | ok current =>
    exact (perform_endures lenient (absorbTopics_discreet current)).bind fun _ => endures_done

/-- What a reload does once it has told how the clusters were reconciled. -/
private theorem afterClusters_endures (outcome : Except Fault Summary) : (do
    match ← reconcileTopics with
    | .ok _ => pure ()
    | .error fault => .modify (reloadFailed (.topicReloadFailed fault))
    .modify (count .reloads)
    return outcome.toOption : Program Zone (Option Summary)).Endures prospect tickets tickets := by
  refine (reconcileTopics_endures lenient).bind fun informed => ?_
  have counts : (modify (count .reloads)).Endures prospect tickets tickets :=
    noting_endures lenient fun _ => ⟨_, _, rfl⟩
  cases informed with
  | ok _ => exact counts.bind fun _ => endures_done
  | error fault =>
    exact (noting_endures lenient fun _ => ⟨_, _, rfl⟩).bind fun _ => counts.bind fun _ =>
      endures_done

theorem reload_endures : reload.Endures prospect {} {} := by
  refine (lenient.reload {} rfl).inside fun ticket =>
    (reconcileClusters_endures lenient rfl).bind fun outcome => ?_
  cases outcome with
  | ok summary => exact afterClusters_endures lenient _
  | error fault =>
    exact (noting_endures lenient fun _ => ⟨_, _, rfl⟩).bind fun _ =>
      afterClusters_endures lenient _

theorem reclaim_endures : reclaim.Endures prospect {} {} := by
  have each : ∀ entry tickets, (reclaimOne entry).Endures prospect tickets tickets :=
    fun entry _ => (stopProducer_endures lenient _ _ _).bind fun stop => noting_endures lenient
      fun zone => by
        unfold reportStop
        split <;> exact ⟨_, _, rfl⟩
  refine Endures.bind ((lenient.book {} rfl).inside fun ticket => endures_get.bind fun zone => ?_)
    fun due => ?_
  · split
    · exact endures_done
    · exact (readClock_endures lenient).bind fun _ =>
        (perform_endures lenient fun _ => ⟨⟨rfl, rfl⟩, rfl, rfl⟩).bind fun due =>
          (Endures.each (fun entry => each entry _) _).bind fun _ => endures_done
  · split
    · exact endures_done
    · exact (noting_endures lenient fun _ => ⟨_, _, rfl⟩).bind fun _ => endures_done

/-- A turn is not given up, whether or not others are at the gates, and where nobody is, it waits for
moments only. -/
theorem turnWork_endures (turn : ClusterPool.Turn) : (turnWork turn).Endures prospect {} {} := by
  cases turn with
  | stop => exact endures_done
  | reload =>
    exact (noting_endures lenient fun _ => ⟨_, _, rfl⟩).bind fun _ =>
      (reload_endures lenient).bind fun _ => endures_done
  | reclaim => exact (reclaim_endures lenient).bind fun _ => endures_done

end Zone
end ClusterPool
