import ClusterPool.Proofs.Program.Chronicle
import ClusterPool.Proofs.Cycle
import ClusterPool.Proofs.Zone.Agreement
import ClusterPool.Proofs.Zone.Walk

/-! How dispatches share the clusters out among themselves while the routes stand. However their
moments fall between each other, each of them takes one ticket and hands its batch to the producer
of the one cluster that the ticket picks, so that together they go round the routes in turn, from
wherever earlier dispatches have left off. -/
namespace ClusterPool
open Program

namespace Zone

/-- One turn of a dispatch: the ticket that it took, the cluster that the ticket picked, and the
producer that the batch was handed to, with its answer. Without a producer the turn was a miss. -/
structure Turn where
  ticket : UInt64
  cluster : String
  handed : Option (ProducerId × Except Fault Unit)

/-- The outcome of a dispatch, with the turns that it had, the first first. -/
structure Service where
  result : Except Fault String
  turns : List Turn

/-- Takes a ticket, and answers it with the name that it picks from a snapshot. -/
def takeTicket (snapshot : Snapshot) (zone : Zone) : (UInt64 × String) × Zone :=
  let picked := zone.withRotation fun rotation => rotation.pick snapshot
  ((zone.rotation.cursor, picked.1), picked.2)

/-- So many attempts on a snapshot, with a record of the turns. -/
def serveRoutes (batch : Batch) (snapshot : Snapshot) :
    Nat → List Turn → Program Zone (Option (Except Fault String) × List Turn)
  | 0, turns => return (none, turns)
  | attempts + 1, turns => do
    let (ticket, cluster) ← .perform (takeTicket snapshot)
    match ← .perform (lookUp cluster) with
    | none =>
      .marked
      serveRoutes batch snapshot attempts (turns ++ [⟨ticket, cluster, none⟩])
    | some id =>
      let result ← .perform (deliver batch id)
      return (some (result.map fun _ => cluster), turns ++ [⟨ticket, cluster, some (id, result)⟩])

/-- A dispatch from a snapshot on, with a record of its turns. -/
def serveFrom (batch : Batch) : Nat → List Turn → Snapshot → Program Zone Service
  | 0, turns, _ => do return ⟨.error (← .perform unroutable), turns⟩
  | attempts + 1, turns, snapshot => do
    match ← serveRoutes batch snapshot snapshot.names.length turns with
    | (some result, turns) => return ⟨result, turns⟩
    | (none, turns) =>
      let latest := (← .get).rotation.current
      if latest.edition = snapshot.edition then return ⟨.error (← .perform unroutable), turns⟩
      else serveFrom batch attempts turns latest

/-- A dispatch that keeps a record of its turns. -/
def serve (batch : Batch) : Program Zone Service := do
  serveFrom batch snapshotAttempts [] (← .get).rotation.current

/-- A dispatch had one turn only: its ticket picked one of the routes of the zone, and its batch was
handed to the producer that is active for this route, whose answer is its own. -/
def Service.Single (service : Service) (zone : Zone) : Prop :=
  ∃ ticket cluster slot answer,
    service = ⟨answer.map fun _ => cluster, [⟨ticket, cluster, some (slot.producer, answer)⟩]⟩ ∧
      zone.rotation.names[ticket.toNat % zone.rotation.names.length]? = some cluster ∧
      zone.active.find? cluster = some slot

/-! What parties may do to each other while the routes stand. -/

/-- The active clusters, the routes and the cursor over them are left alone. -/
structure Unturned (before after : Zone) : Prop where
  active : after.active = before.active
  rotation : after.rotation = before.rotation

private theorem unturned_tolerant : Tolerant Unturned :=
  ⟨fun _ _ _ => ⟨rfl, rfl⟩, fun _ _ => ⟨rfl, rfl⟩⟩

private theorem lookUp_unturned (cluster : String) (zone : Zone) :
    Unturned zone (lookUp cluster zone).2 := by
  unfold lookUp
  split <;> exact ⟨rfl, rfl⟩

private theorem deliver_unturned (batch : Batch) (id : ProducerId) (zone : Zone) :
    Unturned zone (deliver batch id zone).2 := by
  unfold deliver withFleet
  dsimp only
  split <;> exact ⟨rfl, rfl⟩

private theorem reclaim_unturned : reclaim.Within Unturned :=
  unturned_tolerant.reclaim (fun _ _ => ⟨rfl, rfl⟩) fun cluster _ =>
    unturned_tolerant.stopProducer (fun _ => ⟨rfl, rfl⟩) cluster .expired

private theorem reconcileTopicsAlone_unturned : reconcileTopicsAlone.Within Unturned := by
  refine (unturned_tolerant.reconcileTopics fun current zone => ?_).inside unturned_tolerant.still
    (fun _ => ⟨rfl, rfl⟩) fun _ => ⟨rfl, rfl⟩
  obtain ⟨_, _, _, _, rest⟩ := absorbTopics_rest current zone
  rw [rest]
  exact ⟨rfl, rfl⟩

/-- The routes and the active clusters are those of `start`. -/
def Stands (start zone : Zone) : Prop :=
  zone.active = start.active ∧ zone.rotation.current = start.rotation.current

/-- These tickets were taken since `start`, and no others: each of the next ones once. -/
structure Issued (start zone : Zone) (tickets : List UInt64) : Prop where
  cursor : zone.rotation.cursor = start.rotation.cursor + UInt64.ofNat tickets.length
  once : tickets.Perm
    ((List.range tickets.length).map fun count => start.rotation.cursor + UInt64.ofNat count)

theorem Issued.nothing (start : Zone) : Issued start start [] := ⟨by simp, .nil⟩

/-- The ticket under the cursor is the next one. -/
theorem Issued.take {start before after : Zone} {tickets : List UInt64}
    (issued : Issued start before tickets)
    (moved : after.rotation.cursor = before.rotation.cursor + 1) :
    Issued start after (before.rotation.cursor :: tickets) where
  cursor := by
    rw [moved, issued.cursor, List.length_cons, UInt64.ofNat_add, UInt64.add_assoc]
    rfl
  once := by
    rw [List.length_cons, List.range_succ, List.map_append, List.map_singleton, ← issued.cursor]
    exact (issued.once.cons _).trans (List.perm_append_singleton _ _).symm

/-- What a party may do while the routes stand, with the ticket that it has taken before and
after. -/
inductive Turning (before after : Zone) : Option UInt64 → Option UInt64 → Prop
  | aside {ticket : Option UInt64} (unturned : Unturned before after) :
      Turning before after ticket ticket
  | take (active : after.active = before.active)
      (routes : after.rotation.current = before.rotation.current)
      (cursor : after.rotation.cursor = before.rotation.cursor + 1) :
      Turning before after none (some before.rotation.cursor)

theorem Turning.stands {start before after : Zone} {ticket granted : Option UInt64}
    (turning : Turning before after ticket granted) (stands : start.Stands before) :
    start.Stands after := by
  cases turning with
  | aside unturned =>
    exact ⟨unturned.active.trans stands.1,
      (congrArg Rotation.current unturned.rotation).trans stands.2⟩
  | take active routes _ => exact ⟨active.trans stands.1, routes.trans stands.2⟩

/-- The tickets that are held are still all that were taken after a move of the party at this
place. -/
theorem Turning.issued {start before after : Zone} {ticket granted : Option UInt64}
    {held : List (Option UInt64)} {place : Nat} (holds : held[place]? = some ticket)
    (turning : Turning before after ticket granted)
    (issued : Issued start before (held.filterMap id)) :
    Issued start after ((held.set place granted).filterMap id) := by
  obtain ⟨inside, here⟩ := List.getElem?_eq_some_iff.mp holds
  cases turning with
  | aside unturned =>
    rw [← here, List.set_getElem_self]
    exact ⟨(congrArg Rotation.cursor unturned.rotation).trans issued.cursor, issued.once⟩
  | take _ _ cursor =>
    have others : (held.filterMap id).Perm ((held.eraseIdx place).filterMap id) := by
      have apart := (List.getElem_cons_eraseIdx_perm inside).symm.filterMap id
      rwa [here] at apart
    have whole : ((held.set place (some before.rotation.cursor)).filterMap id).Perm
        (before.rotation.cursor :: held.filterMap id) :=
      ((List.set_perm_cons_eraseIdx inside _).filterMap id).trans (others.symm.cons _)
    obtain ⟨moved, once⟩ := issued.take cursor
    rw [← whole.length_eq] at moved once
    exact ⟨moved, whole.trans once⟩

/-- How tickets are taken while the routes stand: each by one party, and at most one by each. -/
def turns (start : Zone) : Discipline surroundings (Option UInt64) where
  lawful := start.Stands
  assigned zone held := Issued start zone (held.filterMap id)
  fresh := none
  move ticket before granted after := Turning before after ticket granted
  rely _ _ _ := True
  rely_refl _ _ := trivial
  rely_trans _ _ := trivial
  stay _ _ := .aside ⟨rfl, rfl⟩
  joins issued := by simpa using issued
  lawful_move := Turning.stands
  assigned_move := Turning.issued
  rely_move _ _ _ _ _ _ _ := trivial
  lawful_outside := by
    rintro before _ ⟨_, _, _, rfl⟩ stands
    exact stands
  assigned_outside := by
    rintro before _ held ⟨_, _, _, rfl⟩ issued
    exact ⟨issued.cursor, issued.once⟩
  rely_outside _ _ := trivial

/-- What a party leaves that holds this ticket: the record of a dispatch that took it, or nothing if
it took none. -/
def Leaves (start : Zone) (left : Option Service) (ticket : Option UInt64) : Prop :=
  match left with
  | some service => service.Single start ∧ service.turns.map (·.ticket) = ticket.toList
  | none => ticket = none

/-- A route of the zone leads to the producer that is active for it. -/
private theorem lookUp_route {start zone : Zone} (routed : start.Routed)
    (stands : start.Stands zone) {cluster : String} (route : cluster ∈ start.rotation.names) :
    ∃ slot, start.active.find? cluster = some slot ∧
      lookUp cluster zone = (some slot.producer, zone) := by
  obtain ⟨slot, found⟩ := NameTable.contains_iff.mp (routed cluster route)
  exact ⟨slot, found, by rw [lookUp, stands.1, found]⟩

/-- A ticket picks the route at the place to which it leads. -/
private theorem takeTicket_picks {start : Zone} (serving : start.rotation.names ≠ [])
    (zone : Zone) : ∃ cluster,
      start.rotation.names[zone.rotation.cursor.toNat % start.rotation.names.length]? =
        some cluster ∧
      (takeTicket start.rotation.current zone).1.2 = cluster := by
  have inside : zone.rotation.cursor.toNat % start.rotation.names.length <
      start.rotation.names.length := Nat.mod_lt _ (List.length_pos_iff.mpr serving)
  have picked := List.getElem?_eq_getElem inside
  refine ⟨_, picked, ?_⟩
  exact (congrArg (Option.getD · "") picked).trans rfl

/-- A dispatch takes one ticket, and the route that this picks has a producer. -/
theorem serve_keeps {start : Zone} (routed : start.Routed) (serving : start.rotation.names ≠ [])
    (batch : Batch) (zone : Zone) :
    (serve batch).Keeps (turns start)
      (fun service ticket _ => start.Leaves (some service) ticket) (fun ticket _ => ticket = none)
      none zone := by
  obtain ⟨places, length⟩ : ∃ places, start.rotation.current.names.length = places + 1 :=
    Nat.exists_eq_add_one.mpr (List.length_pos_iff.mpr serving)
  refine Keeps.bind fun begun _ stands => ⟨none, .aside ⟨rfl, rfl⟩, fun _ _ => ?_⟩
  dsimp only
  rw [stands.2, snapshotAttempts, serveFrom, length]
  refine Keeps.bind (Keeps.bind fun picking _ stands => ?_)
  refine ⟨some picking.rotation.cursor, .take rfl rfl rfl, fun _ _ => ?_⟩
  obtain ⟨cluster, picked, answer⟩ := takeTicket_picks serving picking
  dsimp only
  rw [answer]
  refine Keeps.bind fun looking _ stands => ?_
  obtain ⟨slot, found, looked⟩ := lookUp_route routed stands (List.mem_of_getElem? picked)
  refine ⟨_, .aside (lookUp_unturned cluster looking), fun _ _ => ?_⟩
  dsimp only
  rw [looked]
  refine Keeps.bind fun delivering _ _ =>
    ⟨_, .aside (deliver_unturned batch slot.producer delivering), fun _ _ => ?_⟩
  exact fun _ _ _ _ => ⟨⟨_, _, slot, _, rfl, picked, found⟩, rfl⟩

/-- What may be under way in a zone while its routes stand. Dispatches leave the record of their
turns. -/
inductive Traffic
  | dispatch (batch : Batch)
  | reclaim
  | reconcileTopics

namespace Traffic

def work : Traffic → Program Zone (Option Service)
  | dispatch batch => do return some (← serve batch)
  | reclaim => do
    let _ ← Zone.reclaim
    return none
  | reconcileTopics => do
    let _ ← reconcileTopicsAlone
    return none

/-- The work of some of the traffic. -/
def Admitted (work : Program Zone (Option Service)) : Prop :=
  ∃ traffic : Traffic, work = traffic.work

theorem keeps (traffic : Traffic) {start : Zone} (routed : start.Routed)
    (serving : start.rotation.names ≠ []) (zone : Zone) :
    traffic.work.Keeps (turns start) (fun left ticket _ => start.Leaves left ticket)
      (fun ticket _ => ticket = none) none zone := by
  have silent : ∀ {α : Type} {work : Program Zone α}, work.Within Unturned →
      (work.bind fun _ => done none).Keeps (turns start)
        (fun left ticket _ => start.Leaves left ticket) (fun ticket _ => ticket = none) none
        zone := by
    intro α work within
    have moves : ∀ before after, Unturned before after → True →
        (turns start).move none before none after ∧ True :=
      fun _ _ unturned _ => ⟨.aside unturned, trivial⟩
    refine Keeps.bind ((within.keeps moves (fun _ _ _ _ => trivial) trivial).mono ?_ ?_)
    · exact fun _ _ _ known _ _ => known.1
    · exact fun _ _ known => known.1
  cases traffic with
  | dispatch batch =>
    exact Keeps.bind ((serve_keeps routed serving batch zone).mono (fun _ _ _ leaves _ _ => leaves)
      fun _ _ lost => lost)
  | reclaim => exact silent reclaim_unturned
  | reconcileTopics => exact silent reconcileTopicsAlone_unturned

end Traffic

/-- The routes are still listed without repetition if they were before. -/
def Lists (before after : Zone) : Prop :=
  before.rotation.names.Nodup → after.rotation.names.Nodup

private theorem Unturned.lists {before after : Zone} (unturned : Unturned before after) :
    Lists before after := fun once => by
  rw [unturned.rotation]
  exact once

private theorem lists_tolerant : Tolerant Lists := ⟨fun _ _ _ => id, fun _ _ => id⟩

private theorem finishStart_unturned (id : ProducerId) (zone : Zone) :
    Unturned zone (finishStart id zone).2 := by
  unfold finishStart withFleet
  dsimp only
  split <;> exact ⟨rfl, rfl⟩

private theorem createProducer_lists (topics : NameSet) (cluster : Cluster) :
    (createProducer topics cluster).Within Lists := by
  refine createProducer_within (fun _ => id) (fun id => ?_) fun id zone => ?_
  · exact lists_tolerant.startProducer (fun _ once => once) fun zone =>
      (finishStart_unturned id zone).lists
  · obtain ⟨_, _, _, _, rest⟩ := (publishFirst_fleet topics cluster id zone).1
    rw [rest]
    exact fun once => once

private theorem activate_lists (cluster : Cluster) (id : ProducerId) (now : Stamp) (zone : Zone) :
    Lists zone (activate cluster id now zone).2 := by
  unfold activate
  split <;> exact fun once => once

private theorem publishRoutes_lists {order : List Cluster} (once : (order.map (·.name)).Nodup)
    (seen zone : Zone) : Lists zone (publishRoutes (activeAmong order seen) zone).2 := by
  intro _
  change (zone.rotation.publish _).2.names.Nodup
  rw [Rotation.publish_names]
  exact once.filter _

private theorem reconcileClusters_lists : reconcileClusters.Within Lists := by
  refine lists_tolerant.reconcileClusters fun clusters => lists_tolerant.adopt ?_
    createProducer_lists activate_lists
    (fun cluster _ => lists_tolerant.stopProducer (fun _ => id) cluster .duplicate)
    (publishRoutes_lists (Cluster.firstOfEachName_first _).once) (fun _ _ _ => id) ?_
  · intro now zone once
    rw [Rotation.names, (divide_enlarges now _ zone).routes]
    exact once
  · intro summary zone
    obtain ⟨_, _, rest⟩ := conclude_rest summary zone
    rw [rest]
    exact id

private theorem reconcileTopics_lists : reconcileTopics.Within Lists :=
  lists_tolerant.reconcileTopics fun current zone => by
    obtain ⟨_, _, _, _, rest⟩ := absorbTopics_rest current zone
    rw [rest]
    exact id

private theorem insideReload_lists {work : Program Zone α} (within : work.Within Lists) :
    (reloadGate.inside work).Within Lists :=
  within.inside lists_tolerant.still (fun _ => id) fun _ => id

/-- Whatever may be under way without a closing, the routes are listed without repetition. -/
private theorem Venture.lists (venture : Venture) : venture.work.Within Lists := by
  have silent : ∀ {α : Type} {work : Program Zone α}, work.Within Lists →
      (work.bind fun _ => done none : Program Zone (Option Walk)).Within Lists :=
    fun within => within.bind fun _ => within_done
  cases venture with
  | reload => exact silent (insideReload_lists (reconcileClusters_lists.bind
      (lists_tolerant.afterClusters reconcileTopics_lists)))
  | reconcileClusters => exact silent (insideReload_lists reconcileClusters_lists)
  | reconcileTopics => exact silent (insideReload_lists reconcileTopics_lists)
  | reclaim =>
    exact silent (reclaim_unturned.mono fun _ _ => Unturned.lists)
  | dispatch batch =>
    have promptly := (dispatch_promptly batch).within
    rw [← walk_result] at promptly
    refine Within.bind (promptly.of_bind.mono fun before after steady once => ?_)
      fun _ => within_done
    obtain ⟨_, _, _, _, _, rfl⟩ := steady.rest
    exact once

/-- Where a zone may have come to: a course has led there, or parties are about, none of which
closes the pool. -/
inductive Arrived (zone : Zone) : Prop
  | alone {legs : List Leg} (course : Course legs zone)
  | together {plan : Plan} {start : Zone} {parties : List (Program Zone (Option Walk))}
      (built : build plan = .ok start)
      (reached : Crowd.Reached surroundings Venture.Admitted start ⟨zone, parties⟩)

namespace Arrived

theorem once {zone : Zone} (arrived : zone.Arrived) : zone.rotation.names.Nodup := by
  cases arrived with
  | alone course => exact course.agreed.once
  | together built reached =>
    have admitted : ∀ work, Venture.Admitted work → work.Within Lists := by
      rintro _ ⟨venture, rfl⟩
      exact venture.lists
    have outside : ∀ before after, surroundings.changes before after → Lists before after := by
      rintro before _ ⟨_, _, _, rfl⟩
      exact id
    exact (reached.preserves admitted outside (Agreed.build built).once).1

theorem routed {zone : Zone} (arrived : zone.Arrived) : zone.Routed := by
  cases arrived with
  | alone course => exact fun name route => (course.agreed.routes name).mp route
  | @together _ start _ built reached =>
    have begins : start.Routed ∧ start.Ticketed [] := by
      obtain ⟨_, rfl⟩ := build_eq built
      exact ⟨nofun, nofun, nofun⟩
    have newcomers : ∀ work, Venture.Admitted work → ∀ state, work.Keeps routing
        (fun _ _ _ => True) (fun _ _ => True) routing.fresh state := by
      rintro _ ⟨venture, rfl⟩ state
      exact (venture.keeps state).mono (fun _ _ _ _ => trivial) fun _ _ _ => trivial
    obtain ⟨_, kept⟩ := reached.kept newcomers begins.1 begins.2
    exact kept.lawful

end Arrived

end Zone
end ClusterPool
