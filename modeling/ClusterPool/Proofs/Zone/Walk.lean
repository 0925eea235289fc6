import ClusterPool.Proofs.Zone.Course
import ClusterPool.Proofs.Zone.Routing

/-! How far a dispatch gets while the routes are replaced under it. A route that misses proves that
the snapshot it comes from is no longer current, so that a dispatch that gives up has seen an empty
snapshot, or the routes were replaced as often as it was willing to look at them. -/
namespace ClusterPool
open Program

/-- The name that a ticket picks is one of the snapshot's. -/
theorem Rotation.pick_mem (rotation : Rotation) {snapshot : Snapshot}
    (nonempty : snapshot.names ≠ []) :
    (rotation.pick snapshot).1 ∈ snapshot.names := by
  have inside : rotation.cursor.toNat % snapshot.names.length < snapshot.names.length :=
    Nat.mod_lt _ (List.length_pos_iff.mpr nonempty)
  rw [pick, ticket]
  dsimp only
  rw [List.getElem?_eq_getElem inside]
  exact List.getElem_mem inside

namespace Zone

/-- The outcome of a dispatch, with the snapshots that it walked, first come first. -/
structure Walk where
  result : Except Fault String
  walked : List Snapshot

/-- A dispatch from a snapshot on, which keeps a record of the snapshots that it walks. -/
def walkFrom (batch : Batch) : Nat → List Snapshot → Snapshot → Program Zone Walk
  | 0, walked, _ => do return ⟨.error (← .perform unroutable), walked⟩
  | attempts + 1, walked, snapshot => do
    match ← tryRoutes batch snapshot snapshot.names.length with
    | some result => return ⟨result, walked ++ [snapshot]⟩
    | none =>
      let latest := (← .get).rotation.current
      if latest.edition = snapshot.edition then
        return ⟨.error (← .perform unroutable), walked ++ [snapshot]⟩
      else walkFrom batch attempts (walked ++ [snapshot]) latest

/-- A dispatch that keeps a record of the snapshots that it walks. -/
def walk (batch : Batch) : Program Zone Walk := do
  walkFrom batch snapshotAttempts [] (← .get).rotation.current

private theorem walkFrom_result (batch : Batch) (attempts : Nat) (walked : List Snapshot)
    (snapshot : Snapshot) :
    ((walkFrom batch attempts walked snapshot).bind fun walk => done walk.result) =
      dispatchFrom batch attempts snapshot := by
  induction attempts generalizing walked snapshot with
  | zero => rfl
  | succ attempts ih =>
    refine (bind_assoc _ _ _).trans (congrArg (Program.bind _) (funext fun tried => ?_))
    cases tried with
    | some result => rfl
    | none =>
      refine (bind_assoc _ _ _).trans (congrArg (Program.bind _) (funext fun zone => ?_))
      dsimp only
      split
      · rfl
      · exact ih _ _

/-- A dispatch that keeps a record is a dispatch, moment for moment. -/
theorem walk_result (batch : Batch) :
    ((walk batch).bind fun walk => done walk.result) = dispatch batch :=
  congrArg (act id) (funext fun _ => walkFrom_result batch snapshotAttempts [] _)

/-- A dispatch has reason to give up: it walked an empty snapshot, or the routes were replaced as
often as it took a snapshot since it took its first. -/
def Exhausted (walked : List Snapshot) (zone : Zone) : Prop :=
  (∃ snapshot ∈ walked, snapshot.names = []) ∨
    ∃ first, walked.head? = some first ∧
      first.edition + snapshotAttempts ≤ zone.rotation.current.edition

theorem Exhausted.onward {walked : List Snapshot} {ticket : Option Nat} {before after : Zone}
    (exhausted : before.Exhausted walked) (onward : Onward ticket before after) :
    after.Exhausted walked := by
  rcases exhausted with empty | ⟨first, isFirst, replaced⟩
  · exact .inl empty
  · exact .inr ⟨first, isFirst, Nat.le_trans replaced onward.leads.edition⟩

/-- If the walk ended for want of a route then the dispatch had reason to give up. -/
def Walk.Excused (walk : Walk) (zone : Zone) : Prop :=
  ∀ pool, walk.result = .error (.noRoute pool) → zone.Exhausted walk.walked

/-- A snapshot has nothing to offer: it is empty, or the routes were replaced since. -/
def Stale (snapshot : Snapshot) (zone : Zone) : Prop :=
  snapshot.names = [] ∨ snapshot.edition < zone.rotation.current.edition

theorem Stale.onward {snapshot : Snapshot} {ticket : Option Nat} {before after : Zone}
    (stale : before.Stale snapshot) (onward : Onward ticket before after) :
    after.Stale snapshot :=
  stale.imp_right fun replaced => Nat.lt_of_lt_of_le replaced onward.leads.edition

/-- A route that misses shows that the snapshot it was picked from is stale, since the current
routes all lead to active clusters. -/
private theorem stale_of_miss {snapshot : Snapshot} {rotation : Rotation} {zone : Zone}
    (routed : zone.Routed) (past : snapshot.Leads zone.rotation.current)
    (missed : zone.active.contains (rotation.pick snapshot).1 = false) : zone.Stale snapshot := by
  by_cases empty : snapshot.names = []
  · exact .inl empty
  · rcases past with current | replaced
    · have active := routed (rotation.pick snapshot).1 (by
        rw [Rotation.names, ← current]
        exact rotation.pick_mem empty)
      rw [missed] at active
      cases active
    · exact .inr replaced

private theorem Steady.aside {before after : Zone} (steady : Steady before after) :
    Aside before after := by
  obtain ⟨_, _, _, _, _, rfl⟩ := steady.rest
  exact ⟨rfl, rfl, rfl⟩

private theorem lookUp_missed {cluster : String} {zone : Zone}
    (missed : (lookUp cluster zone).1 = none) : zone.active.contains cluster = false := by
  unfold lookUp at missed
  split at missed
  · cases missed
  · rename_i absent
    exact NameTable.contains_eq_false_iff.mpr absent

/-- A batch that reached a producer did not fail for want of a route. -/
private theorem deliver_routed (batch : Batch) (id : ProducerId) (zone : Zone) (pool : String) :
    (deliver batch id zone).1 ≠ .error (.noRoute pool) := by
  have sent : ∀ producer : Producer, (producer.send batch).1 ≠ .error (.noRoute pool) := by
    intro producer
    unfold Producer.send Phase.ensureStarted
    split
    · rename_i refused
      split at refused
      · cases refused
      · cases refused
        simp
    · split <;> simp
  have asked : (zone.fleet.send id batch).1 ≠ .error (.noRoute pool) := by
    unfold Fleet.send
    split
    · simp
    · exact sent _
  unfold deliver withFleet
  dsimp only
  split
  · simp
  · rename_i failed
    rw [failed] at asked
    simpa using asked

/-- What is known after so many attempts on a snapshot. -/
structure Tried (snapshot : Snapshot) (result : Option (Except Fault String)) (zone : Zone) :
    Prop where
  past : snapshot.Leads zone.rotation.current
  missed : result = none → zone.Stale snapshot
  routed : ∀ pool, result ≠ some (.error (.noRoute pool))

/-- A party without a ticket does something aside, and goes on with what it found. -/
private theorem aside_bind {action : Zone → α × Zone} {next : α → Program Zone β}
    {goal : β → Option Nat → Zone → Prop} {dropped : Option Nat → Zone → Prop} {before : Zone}
    (aside : ∀ zone, Aside zone (action zone).2)
    (later : ∀ found after, Onward none before found → found.Routed → Onward none found after →
      (next (action found).1).Keeps routing goal dropped none after) :
    ((perform action).bind next).Keeps routing goal dropped none before :=
  Keeps.bind fun found onward routed => ⟨none, .aside (aside found), fun after last =>
    later found after onward routed ((aside found).onward.trans last)⟩

private theorem tryRoutes_keeps (batch : Batch) (snapshot : Snapshot) (attempts : Nat)
    {zone : Zone} (past : snapshot.Leads zone.rotation.current)
    (tries : attempts = 0 → zone.Stale snapshot) :
    (tryRoutes batch snapshot attempts).Keeps routing
      (fun result ticket after => ticket = none ∧ after.Tried snapshot result)
      (fun _ _ => False) none zone := by
  induction attempts generalizing zone with
  | zero =>
    intro later onward
    exact ⟨rfl, past.trans onward.leads, fun _ => (tries rfl).onward onward, by simp⟩
  | succ attempts ih =>
    refine aside_bind (fun _ => ⟨rfl, rfl, rfl⟩) fun picking picked before _ onward => ?_
    refine aside_bind (fun zone => (lookUp_steady _ zone).aside)
      fun looking looked between routed last => ?_
    have past := ((past.trans before.leads).trans onward.leads).trans between.leads
    generalize found : (lookUp _ looking).1 = answer
    cases answer with
    | none =>
      have stale := stale_of_miss routed past (lookUp_missed found)
      exact ih (past.trans last.leads) fun _ => stale.onward last
    | some id =>
      refine aside_bind (fun zone => (deliver_steady batch id zone).aside)
        fun delivering delivered meanwhile _ sent => ?_
      intro after final
      have routed := deliver_routed batch id delivering
      refine ⟨rfl, ?_, by simp, fun pool failed => ?_⟩
      · exact (((past.trans last.leads).trans meanwhile.leads).trans sent.leads).trans final.leads
      · cases result : (deliver batch id delivering).1 with
        | ok _ => simp [result, Except.map] at failed
        | error fault =>
          rw [result] at failed routed
          cases failed
          exact routed pool rfl

/-- The snapshots that a dispatch walked, as far as they have names, were each replaced before it
took the next one. -/
def Trail (walked : List Snapshot) (edition : Nat) : Prop :=
  (∃ snapshot ∈ walked, snapshot.names = []) ∨
    ∀ first, walked.head? = some first → first.edition + walked.length ≤ edition

private theorem Trail.snoc {walked : List Snapshot} {snapshot : Snapshot} {zone : Zone}
    (trail : Trail walked snapshot.edition) (stale : zone.Stale snapshot) :
    Trail (walked ++ [snapshot]) zone.rotation.current.edition := by
  rcases trail with ⟨empty, member, none⟩ | behind
  · exact .inl ⟨empty, List.mem_append_left _ member, none⟩
  · rcases stale with none | replaced
    · exact .inl ⟨snapshot, by simp, none⟩
    · refine .inr fun first isFirst => ?_
      cases walked with
      | nil =>
        cases isFirst
        exact replaced
      | cons head rest =>
        have counted := behind first (by simpa using isFirst)
        simp only [List.length_append, List.length_cons, List.length_nil] at counted ⊢
        omega

/-- A dispatch that has taken all its snapshots has reason to give up. -/
private theorem Trail.exhausted {walked : List Snapshot} {edition : Nat} {zone : Zone}
    (trail : Trail walked edition) (whole : walked.length = snapshotAttempts)
    (past : edition ≤ zone.rotation.current.edition) : zone.Exhausted walked := by
  rcases trail with empty | behind
  · exact .inl empty
  · cases walked with
    | nil => cases whole
    | cons first rest =>
      have counted := behind first rfl
      exact .inr ⟨first, rfl, by omega⟩

private theorem walkFrom_keeps (batch : Batch) (attempts : Nat) (walked : List Snapshot)
    (snapshot : Snapshot) {zone : Zone} (counts : walked.length + attempts = snapshotAttempts)
    (past : snapshot.Leads zone.rotation.current) (trail : Trail walked snapshot.edition) :
    (walkFrom batch attempts walked snapshot).Keeps routing (fun walk _ after => walk.Excused after)
      (fun _ _ => False) none zone := by
  induction attempts generalizing walked snapshot zone with
  | zero =>
    refine aside_bind (fun _ => ⟨rfl, rfl, rfl⟩) fun found after before _ onward => ?_
    intro later last pool _
    exact trail.exhausted counts
      (past.trans (before.leads.trans (onward.leads.trans last.leads))).edition
  | succ attempts ih =>
    have tries : snapshot.names.length = 0 → zone.Stale snapshot := fun none =>
      .inl (List.eq_nil_of_length_eq_zero none)
    refine Keeps.bind ((tryRoutes_keeps batch snapshot _ past tries).mono ?_ fun _ _ => id)
    rintro tried _ middle ⟨rfl, past, missed, routed⟩
    cases tried with
    | some result =>
      intro later onward pool failed
      exact absurd (congrArg some failed) (routed pool)
    | none =>
      refine Keeps.bind fun seen onward _ => ⟨none, .aside (.refl seen), fun after last => ?_⟩
      have stale := (missed rfl).onward onward
      dsimp only
      split
      · rename_i same
        -- The snapshot is still the current one, so that it can only be stale for want of names.
        have empty : snapshot.names = [] :=
          stale.resolve_right fun replaced => Nat.lt_irrefl _ (same ▸ replaced)
        refine aside_bind (fun _ => ⟨rfl, rfl, rfl⟩) fun found ended before _ onward => ?_
        intro later _ pool _
        exact .inl ⟨snapshot, by simp, empty⟩
      · refine ih _ _ ?_ last.leads (trail.snoc stale)
        simp only [List.length_append, List.length_singleton]
        omega

/-- A dispatch without a route to any producer had reason to give up. -/
theorem walk_keeps (batch : Batch) (zone : Zone) :
    (walk batch).Keeps routing (fun walk _ after => walk.Excused after) (fun _ _ => False) none
      zone := by
  refine Keeps.bind fun seen onward _ => ⟨none, .aside (.refl seen), fun after last => ?_⟩
  exact walkFrom_keeps batch _ _ _ (Nat.zero_add _) last.leads (.inr fun _ none => by cases none)

/-- What parties may be about in a zone that is not being closed: each comes with one of these, and
those that dispatch leave the record of their walk. -/
inductive Venture
  | reload
  | reconcileClusters
  | reconcileTopics
  | reclaim
  | dispatch (batch : Batch)

namespace Venture

def work : Venture → Program Zone (Option Walk)
  | reload => do
    let _ ← Zone.reload
    return none
  | reconcileClusters => do
    let _ ← reconcileClustersAlone
    return none
  | reconcileTopics => do
    let _ ← reconcileTopicsAlone
    return none
  | reclaim => do
    let _ ← Zone.reclaim
    return none
  | dispatch batch => do return some (← walk batch)

/-- The work of some venture. -/
def Admitted (work : Program Zone (Option Walk)) : Prop := ∃ venture : Venture, work = venture.work

/-- Every venture keeps to what routing is shared by. -/
theorem keeps (venture : Venture) (zone : Zone) :
    venture.work.Keeps routing (fun result _ after => ∀ walk, result = some walk →
      walk.Excused after) (fun _ _ => True) none zone := by
  have silent : ∀ {α : Type} {work : Program Zone α}, Visits work →
      (work.bind fun _ => done none).Keeps routing (fun (result : Option Walk) _ after =>
        ∀ walk, result = some walk → walk.Excused after) (fun _ _ => True) none zone := by
    intro α work visits
    refine Keeps.bind ((visits zone).mono ?_ fun _ _ _ => trivial)
    intro _ _ _ _ later _ walk isWalk
    cases isWalk
  cases venture with
  | reload => exact silent reload_visits
  | reconcileClusters => exact silent reconcileClustersAlone_visits
  | reconcileTopics => exact silent reconcileTopicsAlone_visits
  | reclaim => exact silent reclaim_visits
  | dispatch batch =>
    refine Keeps.bind ((walk_keeps batch zone).mono ?_ fun _ _ => False.elim)
    rintro walk ticket after excused later onward _ isWalk pool failed
    cases isWalk
    exact (excused pool failed).onward onward

/-- However the moments of reconciliations, reclaimings and dispatches fall between each other in a
zone that was built, every route leads to an active cluster. Each moment leaves the routes as they
were or replaces them by the next edition. A dispatch that returns for want of a route has walked
an empty snapshot, or by then the routes were replaced as often as it takes a snapshot, counted
from its first. Keeping the record of a walk makes no difference to a dispatch. -/
theorem routing_complete {plan : Plan} {zone : Zone} (built : build plan = .ok zone)
    {crowd : Crowd Zone (Option Walk)}
    (reached : Crowd.Reached surroundings Admitted zone crowd) :
    crowd.state.Routed ∧
    (∀ after, Crowd.Step surroundings Admitted crowd after →
      (after.state.rotation.current = crowd.state.rotation.current ∨
        after.state.rotation.current.edition = crowd.state.rotation.current.edition + 1) ∧
      ∀ (place : Nat) (record : Walk), crowd.parties[place]? ≠ some (.done (some record)) →
        after.parties[place]? = some (.done (some record)) → record.Excused after.state) ∧
    ∀ batch, ((walk batch).bind fun walk => done walk.result) = Zone.dispatch batch := by
  have start : zone.Routed ∧ zone.Ticketed [] := by
    obtain ⟨_, rfl⟩ := build_eq built
    exact ⟨nofun, nofun, nofun⟩
  have newcomers : ∀ work, Admitted work → ∀ state, work.Keeps routing
      (fun result _ after => ∀ walk, result = some walk → walk.Excused after)
      (fun _ _ => True) routing.fresh state := by
    rintro _ ⟨venture, rfl⟩ state
    exact venture.keeps state
  obtain ⟨tokens, kept⟩ := reached.kept newcomers start.1 start.2
  refine ⟨kept.lawful, fun after step => ?_, walk_result⟩
  obtain ⟨⟨tokens, kept⟩, moved⟩ := step.kept newcomers kept
  constructor
  · rcases moved with ⟨_, _, move⟩ | ⟨_, _, _, same⟩
    · exact Move.routes move
    · exact .inl (by rw [same])
  · intro place record _ returned
    obtain ⟨token, holds⟩ := kept.token returned
    exact kept.keeps returned holds _ (routing.rely_refl _ _) record rfl

/-- The catalog announces one cluster, and a newcomer reloads while the others rest. -/
def reloadFor (cluster : String) (crowd : Crowd Zone (Option Walk)) : Crowd Zone (Option Walk) :=
  let announced := crowd.state.announce { clusters := [{ name := cluster }], topics := .empty }
  Crowd.advances surroundings crowd.parties.length 32
    ⟨announced, crowd.parties ++ [reload.work]⟩

private theorem reloadFor_reached {start : Zone} {crowd : Crowd Zone (Option Walk)}
    (reached : Crowd.Reached surroundings Admitted start crowd) (cluster : String) :
    Crowd.Reached surroundings Admitted start (reloadFor cluster crowd) := by
  have change : surroundings.changes crowd.state (crowd.state.announce
      { clusters := [{ name := cluster }], topics := .empty }) := ⟨_, _, _, rfl⟩
  have announced := reached.step (.outside change)
  exact (announced.step (.join ⟨.reload, rfl⟩)).advances _ _

/-- A dispatch that takes a snapshot between any two reloads, each of which replaces the only
cluster by another one. -/
def chase : Crowd Zone (Option Walk) :=
  let begun : Crowd Zone (Option Walk) :=
    reloadFor "A" ⟨Course.blank, [(dispatch {}).work]⟩
  let first := begun.advance surroundings 0
  let second := (reloadFor "B" first).advances surroundings 0 4
  let third := (reloadFor "A" second).advances surroundings 0 4
  (reloadFor "B" third).advances surroundings 0 4

private theorem chase_reached : Crowd.Reached surroundings Admitted Course.blank chase := by
  have joined : Crowd.Reached surroundings Admitted Course.blank
      ⟨Course.blank, [(dispatch {}).work]⟩ := Crowd.Reached.start.step (.join ⟨_, rfl⟩)
  have first := (reloadFor_reached joined "A").advance 0
  have second := (reloadFor_reached first "B").advances 0 4
  have third := (reloadFor_reached second "A").advances 0 4
  exact (reloadFor_reached third "B").advances 0 4

set_option maxRecDepth 4000 in
/-- The chased dispatch finds no route after three replacements, and not one fewer. -/
theorem routing_complete_of_chase : chase.state.Routed ∧
    (chase.advance surroundings 0).parties[0]? = some (.done (some
      ⟨.error (.noRoute "default"), [⟨["A"], 1⟩, ⟨["B"], 2⟩, ⟨["A"], 3⟩]⟩)) ∧
    (chase.advance surroundings 0).state.rotation.current.edition = 1 + snapshotAttempts ∧
    (chase.advance surroundings 0).state.Exhausted [⟨["A"], 1⟩, ⟨["B"], 2⟩, ⟨["A"], 3⟩] := by
  have built : build { catalog := some (.inMemory [] .empty) } = .ok Course.blank := rfl
  obtain ⟨routed, steps, _⟩ := routing_complete built chase_reached
  have going : ∃ change next, chase.parties[0]? = some (.act change next) := ⟨_, _, rfl⟩
  have returned : (chase.advance surroundings 0).parties[0]? = some (.done (some
      ⟨.error (.noRoute "default"), [⟨["A"], 1⟩, ⟨["B"], 2⟩, ⟨["A"], 3⟩]⟩)) := rfl
  obtain ⟨_, _, here⟩ := going
  refine ⟨routed, returned, rfl, (steps _ (.advance here)).2 0 _ ?_ returned _ rfl⟩
  rw [here]
  simp

end Venture

end Zone
end ClusterPool
