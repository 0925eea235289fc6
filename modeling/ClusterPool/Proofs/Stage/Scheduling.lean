import ClusterPool.Proofs.Stage.Playing

/-! The schedule of the background tasks: their turns come at the ends of their intervals, until they
are asked to end, and whoever has waited for the end of a task knows that it does nothing more. -/
namespace ClusterPool
open Program

namespace Program

/-- Whatever becomes of the state in the pauses of the work, it comes to no end but one at which
`goal` holds of its value and of the state. -/
def EndsOnly (now : σ → Nat) (goal : α → σ → Prop) : Program σ α → σ → Prop
  | .done value, state => goal value state
  | .crash, _ => True
  | .act change next, state => (next state).EndsOnly now goal (change state)
  | .pause wake next, _ => ∀ later, wake.isOver now later = true → next.EndsOnly now goal later
  | .mark next, state => next.EndsOnly now goal state

variable {now : σ → Nat} {state : σ}

theorem endsOnly_waitFor {ready : σ → Bool} :
    (waitFor ready).EndsOnly now (fun _ after => ready after = true) state := by
  unfold waitFor EndsOnly
  dsimp only [id_eq]
  split
  · assumption
  · intro later woken
    simpa [EndsOnly, Wake.isOver] using woken

theorem endsOnly_get {goal : σ → σ → Prop} :
    (get : Program σ σ).EndsOnly now goal state ↔ goal state state := Iff.rfl

namespace EndsOnly

theorem mono {goal weaker : α → σ → Prop} {work : Program σ α} (ends : work.EndsOnly now goal state)
    (implies : ∀ value after, goal value after → weaker value after) :
    work.EndsOnly now weaker state := by
  induction work generalizing state with
  | done value => exact implies value state ends
  | crash => trivial
  | act change next ih => exact ih state ends
  | pause wake next ih => exact fun later woken => ih (ends later woken)
  | mark next ih => exact ih ends

theorem bind {work : Program σ α} {next : α → Program σ β} {goal : β → σ → Prop}
    (ends : work.EndsOnly now (fun value after => (next value).EndsOnly now goal after) state) :
    (work.bind next).EndsOnly now goal state := by
  induction work generalizing state with
  | done value => exact ends
  | crash => trivial
  | act change next ih => exact ih state ends
  | pause wake next ih => exact fun later woken => ih (ends later woken)
  | mark next ih => exact ih ends

end EndsOnly
end Program

namespace Zone

/-- How a task has ended, for whoever waited for that. -/
def ending (index : Nat) (zone : Zone) : Except Fault Unit :=
  if zone.upkeeps[index]?.any (·.phase = .lost) then .error .taskLost else .ok ()

theorem ending_eq {index : Nat} {zone : Zone} {upkeep : Upkeep}
    (held : zone.upkeeps[index]? = some upkeep) :
    zone.ending index = if upkeep.phase = .lost then .error .taskLost else .ok () := by
  simp [ending, held]

theorem isOver_eq {index : Nat} {zone : Zone} {upkeep : Upkeep}
    (held : zone.upkeeps[index]? = some upkeep) : zone.isOver index = upkeep.isOver := by
  simp [isOver, held]

theorem isOver_of_length_le {index : Nat} {zone : Zone} (none : zone.upkeeps.length ≤ index) :
    zone.isOver index = true := by
  rw [isOver, List.getElem?_eq_none none]
  rfl

/-- The zone once a task of it was asked to end. -/
def asking (index : Nat) (zone : Zone) : Zone :=
  (if zone.isOver index then zone.report .maintenanceGone else zone).dropHandle

/-- What is left of asking a task to end when the task is over. -/
def farewell (index : Nat) : Program Zone (Option (Except Fault Unit)) :=
  get.bind fun zone => .done (some (zone.ending index))

theorem shutdown_eq : shutdown = get.bind fun zone =>
    match zone.handle with
    | none => .done none
    | some index => (Program.modify (asking index)).bind fun _ =>
        (waitFor (isOver index)).bind fun _ => farewell index := by
  unfold shutdown
  refine congrArg get.bind (funext fun zone => ?_)
  cases zone.handle with
  | none => rfl
  | some index =>
    refine congrArg (Program.bind _) (funext fun _ => congrArg (Program.bind _) (funext fun _ =>
      congrArg get.bind (funext fun zone => ?_)))
    unfold ending
    cases zone.upkeeps[index]? with
    | none => rfl
    | some upkeep =>
      obtain ⟨_, _, _, phase⟩ := upkeep
      cases phase <;> rfl

/-- Whoever asks a task to end waits until it has, and learns how it has ended. -/
theorem shutdown_answers {index : Nat} {zone : Zone} (handle : zone.handle = some index) :
    shutdown.EndsOnly Zone.now (fun answer after =>
      after.isOver index = true ∧ answer = some (after.ending index)) zone := by
  have waits : ∀ asked : Zone, (waitFor (isOver index)).EndsOnly Zone.now
      (fun _ after => after.isOver index = true) asked := fun _ => endsOnly_waitFor
  rw [shutdown_eq]
  refine EndsOnly.bind (endsOnly_get.mpr ?_)
  rw [handle]
  refine EndsOnly.bind (EndsOnly.bind ((waits _).mono fun _ after isOver => ?_))
  exact EndsOnly.bind (endsOnly_get.mpr ⟨isOver, rfl⟩)

/-- Whoever asks a task to end waits until it has. -/
theorem shutdown_endsOnly {index : Nat} {zone : Zone} (handle : zone.handle = some index) :
    shutdown.EndsOnly Zone.now (fun _ after => after.isOver index = true) zone :=
  (shutdown_answers handle).mono fun _ _ ends => ends.1

end Zone

namespace Watch

/-- A task that is due for some work takes it up. -/
theorem Move.worked {index : Nat} {watch : Watch} (turn : Turn) (works : turn ≠ .stop)
    (idle : (watch.sheet index).upkeep.phase = .idle)
    (due : turn ∈ (watch.sheet index).upkeep.turns watch.stage.zone.now) :
    let taken : Stage := { watch.stage with zone := (watch.stage.zone.takeTurn index turn).2 }
    let did := Stage.doTurn index (Zone.turnWork turn) taken
    Move index watch { watch with
      stage := did.2
      stints := {
        turn, begun := watch.stage.zone.now
        ended := if did.1 then some watch.stage.zone.now else none
        stretches := [(taken.zone, (taken.advance (Zone.turnWork turn)).2.zone)] } ::
          watch.stints } := by
  cases turn with
  | stop => exact absurd rfl works
  | reload | reclaim => exact .works idle due rfl rfl

/-- What a task did in a turn is what its turn is for. -/
private theorem does_named {stint : Stint} (works : stint.turn ≠ .stop)
    (does : stint.Does (Zone.turnWork stint.turn)) :
    (stint.turn = .reload ∧ stint.Does (do
      .modify (Zone.report .reloadScheduled)
      Zone.reload)) ∨
    (stint.turn = .reclaim ∧ stint.Does Zone.reclaim) := by
  cases turn : stint.turn with
  | stop => exact absurd turn works
  | reload =>
    rw [turn] at does
    exact .inl ⟨rfl, Stint.Does.of_dropValue does⟩
  | reclaim =>
    rw [turn] at does
    exact .inr ⟨rfl, Stint.Does.of_dropValue does⟩

/-- Background tasks keep to their schedule. A task whose intervals are whole milliseconds is begun,
and as long as its clock can tell the ends of both, it takes its turns when they are over, first
after one interval and then after each further one, whatever goes on beside it and whichever of two
turns that are due at once it takes first. So it is while its turns take no time, and until it is
asked to end. If its clock could not tell them when it began, it never takes a turn. In any case it
reloads in its turns to reload, and reclaims in those to reclaim, no turn begins before those that
began earlier are over, and none begins when the task itself is over, for which whoever asks it to
end has to wait. -/
theorem turns_on_time {stage : Stage} {reloadMs reclaimMs : Nat}
    (reloads : stage.zone.settings.reloadEvery.toNanos = reloadMs * 1000000)
    (reclaims : stage.zone.settings.reclaimEvery.toNanos = reclaimMs * 1000000)
    (someTime : 0 < reloadMs ∧ 0 < reclaimMs) :
    let index := stage.zone.upkeeps.length
    let start := stage.zone.now
    stage.zone.addUpkeep.1 = .ok index ∧
    (∀ zone, zone.handle = some index →
      Zone.shutdown.EndsOnly Zone.now (fun _ after => after.isOver index = true) zone) ∧
    ∀ watch, Relation.ReflTransGen (Move index) (spawn stage) watch →
      Timesheet.Serial watch.shifts ∧
      (∀ stint ∈ watch.stints,
        (stint.turn = .reload ∧ stint.Does (do
          .modify (Zone.report .reloadScheduled)
          Zone.reload)) ∨
        (stint.turn = .reclaim ∧ stint.Does Zone.reclaim)) ∧
      (watch.stage.zone.isOver index = true →
        ∀ later, Relation.ReflTransGen (Move index) watch later → later.shifts = watch.shifts) ∧
      (stage.zone.newUpkeep.tells watch.stage.zone.now = true → (watch.sheet index).Prompt →
        (watch.sheet index).OnTime start reloadMs .reload ∧
        (watch.sheet index).OnTime start reclaimMs .reclaim) ∧
      (stage.zone.newUpkeep.tells start = false → watch.shifts = []) := by
  intro index start
  have usable := usable_of_millis reloads reclaims someTime
  refine ⟨by rw [addUpkeep_eq usable], fun zone handle => Zone.shutdown_endsOnly handle, ?_⟩
  intro watch leads
  obtain ⟨sound, coherent⟩ := spawn_sound usable leads
  refine ⟨coherent.serial, fun stint member => ?_, fun isOver later => sound.stays_over coherent isOver,
    fun tells prompt => ?_, fun tells => (spawn_forlorn usable leads tells).shifts⟩
  · obtain ⟨works, does⟩ := sound.does stint member
    exact does_named works does
  · have punctual := spawn_punctual reloads reclaims someTime leads
      (Upkeep.tells_mono (spawn_now_le usable leads) tells) prompt
    have reload : Turn.reload ≠ .stop := nofun
    have reclaim : Turn.reclaim ≠ .stop := nofun
    exact ⟨punctual.onTime reload, punctual.onTime reclaim⟩

/-- A stage that reloads every millisecond, and reclaims every other. -/
def brisk : Stage where
  zone := { (default : Zone) with
    settings := { reloadEvery := .ofMillis 1, reclaimEvery := .ofMillis 2 } }

/-- Two turns are due at once, and are taken one after the other. -/
theorem turns_on_time_of_brisk : ∃ watch, Relation.ReflTransGen (Move 0) (spawn brisk) watch ∧
    watch.shifts = [⟨.reclaim, 2, some 2⟩, ⟨.reload, 2, some 2⟩, ⟨.reload, 1, some 1⟩] ∧
    watch.stage.zone.tally.reloads = 2 ∧
    (∀ stint ∈ watch.stints, (stint.turn = .reload ∧ stint.Does (do
        .modify (Zone.report .reloadScheduled)
        Zone.reload)) ∨
      (stint.turn = .reclaim ∧ stint.Does Zone.reclaim)) ∧
    (watch.sheet 0).OnTime 0 1 .reload ∧ (watch.sheet 0).OnTime 0 2 .reclaim := by
  have leads : Relation.ReflTransGen (Move 0) (spawn brisk) (spawn brisk) := .refl
  have leads := leads.tail (.begins (by decide))
  have leads := leads.tail (.waits 1 (by decide) (by decide))
  have leads := leads.tail (.worked .reload nofun (by decide) (by decide))
  have leads := leads.tail (.waits 2 (by decide +kernel) (by decide +kernel))
  have leads := leads.tail (.worked .reload nofun (by decide +kernel) (by decide +kernel))
  have leads := leads.tail (.worked .reclaim nofun (by decide +kernel) (by decide +kernel))
  obtain ⟨_, does, _, onTime, _⟩ :=
    (@turns_on_time brisk 1 2 (by decide) (by decide) (by decide)).2.2 _ leads
  exact ⟨_, leads, by decide +kernel, by decide +kernel, does,
    onTime (by decide +kernel) (by decide +kernel)⟩

/-- A stage that reloads every second, with an interval for the other turn that no clock can tell. -/
def distant : Stage where
  zone := { (default : Zone) with
    settings := { reloadEvery := .ofSeconds 1, reclaimEvery := .ofSeconds 18446744073709551615 } }

/-- With one interval that no clock can tell, a task does not keep to the other one either. -/
theorem distant_misses : ¬∀ (stage : Stage) (reloadMs reclaimMs : Nat),
    stage.zone.settings.reloadEvery.toNanos = reloadMs * 1000000 →
    stage.zone.settings.reclaimEvery.toNanos = reclaimMs * 1000000 →
    0 < reloadMs ∧ 0 < reclaimMs →
    let index := stage.zone.upkeeps.length
    ∀ watch, Relation.ReflTransGen (Move index) (spawn stage) watch →
      (watch.sheet index).Prompt →
      (watch.sheet index).OnTime stage.zone.now reloadMs .reload ∧
      (watch.sheet index).OnTime stage.zone.now reclaimMs .reclaim := by
  intro always
  have leads : Relation.ReflTransGen (Move 0) (spawn distant) (spawn distant) := .refl
  have leads := leads.tail (.begins (by decide))
  have leads := leads.tail (.waits 2500 (by decide) (by decide))
  have next := (always distant 1000 18446744073709551615000 (by decide) (by decide) (by decide) _
    leads (by decide)).1.keeps.next
  exact absurd next (by decide)

end Watch
end ClusterPool
