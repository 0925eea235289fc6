import Mathlib.Logic.Relation
import ClusterPool.Proofs.Stage.Turning
import ClusterPool.Proofs.Timesheet

/-! A background task under watch. Whatever goes on beside it, and whichever of the turns that are
due it takes first, it takes them on time as long as they take no time, until it is asked to end. It
is never in two turns at once, and does nothing after it is over. But a task with an interval that
its clock cannot tell is lost before its first turn. -/
namespace ClusterPool
open Program

namespace Zone

/-- Something goes on beside a task: no time passes, and the task is left alone, but for being asked
to end. -/
structure Spares (index : Nat) (before after : Zone) : Prop where
  now : after.now = before.now
  upkeep : ∀ upkeep, before.upkeeps[index]? = some upkeep →
    after.upkeeps[index]? = some upkeep ∨
      after.upkeeps[index]? = some { upkeep with dismissed := true }

/-- Others leave a task in the phase it is in. -/
theorem Spares.phase {index : Nat} {before after : Zone} (spares : Spares index before after)
    {upkeep : Upkeep} (held : before.upkeeps[index]? = some upkeep) :
    ∃ latter, after.upkeeps[index]? = some latter ∧ latter.phase = upkeep.phase := by
  rcases spares.upkeep upkeep held with same | dismissed
  · exact ⟨upkeep, same, rfl⟩
  · exact ⟨_, dismissed, rfl⟩

end Zone

/-- A turn that a task took, with the stretches in which it did its work: what each of them found,
and what it left. -/
structure Stint extends Shift where
  stretches : List (Zone × Zone)

/-- In this turn the task did this work. It began with it when the turn began, and the turn was over
when the work had come to its end, and not without that. -/
structure Stint.Does (work : Program Zone α) (stint : Stint) : Prop where
  begun : ∀ first later, stint.stretches = first :: later → first.1.now = stint.begun
  comes : ∃ standing earlier last, stint.stretches = earlier ++ [last] ∧
    work.Comes Zone.now stint.stretches standing ∧
    stint.ended = if standing.isFinished then some last.2.now else none

theorem Program.Comes.ne_nil {now : σ → Nat} {work : Program σ α} {stretches : List (σ × σ)}
    {standing : Standing σ α} (comes : work.Comes now stretches standing) : stretches ≠ [] := by
  cases comes <;> simp

namespace Stint.Does

variable {work : Program Zone α} {standing : Standing Zone α} {before left : Zone}

/-- The first stretch of a turn. -/
theorem first (goes : work.stretch before = (standing, left)) (still : left.now = before.now)
    (turn : Turn) : Stint.Does work {
      turn, begun := before.now, ended := if standing.isFinished then some before.now else none
      stretches := [(before, left)] } where
  begun := by
    rintro _ _ ⟨⟩
    rfl
  comes := ⟨standing, [], _, rfl, .first goes, by rw [still]⟩

/-- A further stretch, after the pause of those before it. -/
theorem next {stint : Stint} {rest : Paused Zone α} (does : stint.Does work)
    (comes : work.Comes Zone.now stint.stretches (.paused rest))
    (woken : rest.wake.isOver Zone.now before = true)
    (goes : rest.next.stretch before = (standing, left)) (still : left.now = before.now) :
    Stint.Does work { stint with
      ended := if standing.isFinished then some before.now else none
      stretches := stint.stretches ++ [(before, left)] } where
  begun := by
    intro first later all
    obtain ⟨head, rest, same⟩ := List.exists_cons_of_ne_nil comes.ne_nil
    dsimp only at all
    rw [same] at all
    cases all
    exact does.begun _ rest same
  comes := ⟨standing, stint.stretches, _, rfl, .next comes woken goes, by rw [still]⟩

/-- What a task does without regard to the value, it does. -/
theorem of_dropValue {stint : Stint} (does : stint.Does (work.bind fun _ => .done ())) :
    stint.Does work := by
  obtain ⟨begun, standing, earlier, last, all, comes, ended⟩ := does
  obtain ⟨former, came, rfl⟩ := comes.of_dropValue
  rw [Standing.isFinished_dropValue] at ended
  exact ⟨begun, former, earlier, last, all, came, ended⟩

end Stint.Does

/-- A stage with one of its tasks under watch: the turns that it took so far, the latest first, and
when it was first asked to end. -/
structure Watch where
  stage : Stage
  stints : List Stint := []
  asked : Option Nat := none

namespace Watch

def shifts (watch : Watch) : List Shift := watch.stints.map Stint.toShift

/-- What the watcher knows of the task. -/
def sheet (index : Nat) (watch : Watch) : Timesheet where
  upkeep := watch.stage.zone.upkeeps[index]?.getD default
  now := watch.stage.zone.now
  shifts := watch.shifts
  asked := watch.asked

/-- When a task was first asked to end, once others had their turn. -/
def askedBy (index : Nat) (watch : Watch) (zone : Zone) : Option Nat :=
  watch.asked.or (if (zone.upkeeps[index]?.map (·.dismissed)).getD false then some zone.now else none)

/-- What may happen while a task is under watch. Others do something beside it. Or the task begins,
or takes any turn that is due, or goes on with its turn where its pause is over. Or time passes, if
the task cannot go on, up to its next turn if it waits for one. -/
inductive Move (index : Nat) : Watch → Watch → Prop
  | others {watch : Watch} {after : Stage} (spares : watch.stage.zone.Spares index after.zone)
      (same : after.turns.lookup index = watch.stage.turns.lookup index) :
      Move index watch { watch with stage := after, asked := watch.askedBy index after.zone }
  | begins {watch : Watch} (unborn : (watch.sheet index).upkeep.phase = .unborn) :
      Move index watch { watch with
        stage := { watch.stage with zone := watch.stage.zone.beginUpkeep index } }
  | stops {watch : Watch} (idle : (watch.sheet index).upkeep.phase = .idle)
      (due : .stop ∈ (watch.sheet index).upkeep.turns watch.stage.zone.now) :
      Move index watch { watch with
        stage := { watch.stage with zone := (watch.stage.zone.takeTurn index .stop).2 } }
  | works {watch : Watch} {turn : Turn} {work : Program Zone Unit} {zone : Zone} {completed : Bool}
      {after : Stage} (idle : (watch.sheet index).upkeep.phase = .idle)
      (due : turn ∈ (watch.sheet index).upkeep.turns watch.stage.zone.now)
      (taken : watch.stage.zone.takeTurn index turn = (some work, zone))
      (did : Stage.doTurn index work { watch.stage with zone } = (completed, after)) :
      Move index watch { watch with
        stage := after
        stints := {
          turn, begun := watch.stage.zone.now
          ended := if completed then some watch.stage.zone.now else none
          stretches := [(zone, (Stage.advance work { watch.stage with zone }).2.zone)] } ::
            watch.stints }
  | resumes {watch : Watch} {stint : Stint} {earlier : List Stint} {paused : Paused Zone Unit}
      {completed : Bool} {after : Stage} (busy : (watch.sheet index).upkeep.phase = .busy)
      (latest : watch.stints = stint :: earlier)
      (rest : watch.stage.turns.lookup index = some paused)
      (woken : paused.wake.isOver Zone.now watch.stage.zone = true)
      (did : Stage.doTurn index paused.next { watch.stage with
        turns := watch.stage.turns.filter fun entry => entry.1 != index } = (completed, after)) :
      Move index watch { watch with
        stage := after
        stints := { stint with
          ended := if completed then some watch.stage.zone.now else none
          stretches := stint.stretches ++ [(watch.stage.zone, (Stage.advance paused.next
            { watch.stage with
              turns := watch.stage.turns.filter fun entry => entry.1 != index }).2.zone)] } ::
            earlier }
  | waits {watch : Watch} (moment : Nat)
      (rests : Stage.canGo (fun wake => wake.isOver Zone.now watch.stage.zone) watch.stage.turns
        watch.stage.zone index = false)
      (inTime : (watch.sheet index).upkeep.phase = .idle →
        moment ≤ (watch.sheet index).upkeep.wakesAt) :
      Move index watch { watch with
        stage := { watch.stage with zone := watch.stage.zone.passUntil moment } }

/-- What is left of the turn that the task is in is what is left of its work, and leaves all tasks
alone. -/
def InTurn (index : Nat) (watch : Watch) : Prop :=
  ∃ stint earlier rest, watch.stints = stint :: earlier ∧
    watch.stage.turns.lookup index = some rest ∧ rest.next.Within Zone.Aloof ∧
    (Zone.turnWork stint.turn).Comes Zone.now stint.stretches (.paused rest)

/-- There is a task of this number, and in all of its turns it did what there is to do in them. -/
structure Sound (index : Nat) (watch : Watch) : Prop where
  held : ∃ upkeep, watch.stage.zone.upkeeps[index]? = some upkeep
  turn : (watch.sheet index).upkeep.phase = .busy → watch.InTurn index
  does : ∀ stint ∈ watch.stints, stint.turn ≠ .stop ∧ stint.Does (Zone.turnWork stint.turn)

variable {index : Nat} {watch after : Watch}

theorem sheet_eq {upkeep : Upkeep} (held : watch.stage.zone.upkeeps[index]? = some upkeep) :
    watch.sheet index = ⟨upkeep, watch.stage.zone.now, watch.shifts, watch.asked⟩ := by
  rw [sheet, held]
  rfl

/-- How a task stands that went on with its turn. -/
private theorem doTurn_leaves {stage after : Stage} {work : Program Zone Unit} {completed : Bool}
    {upkeep : Upkeep} (within : work.Within Zone.Aloof)
    (did : Stage.doTurn index work stage = (completed, after))
    (held : stage.zone.upkeeps[index]? = some upkeep) (busy : upkeep.phase = .busy) :
    after.zone.now = stage.zone.now ∧ ∃ phase,
      after.zone.upkeeps[index]? = some { upkeep with phase } ∧
      Timesheet.Leaves stage.zone.now phase (if completed then some stage.zone.now else none) ∧
      (phase = .busy → ∃ rest, (stage.advance work).1 = .paused rest ∧
        after.turns.lookup index = some rest ∧ rest.next.Within Zone.Aloof) := by
  obtain ⟨now, _, ⟨phase, left, _, upkeeps⟩ | ⟨rest, stands, rfl, onward, turns, upkeeps⟩⟩ :=
    Stage.doTurn_cases within did
  · refine ⟨now, phase, Zone.held_modify held upkeeps, ?_, ?_⟩
    · cases completed <;> cases left
      · exact .fails
      · exact .done
    · rintro rfl
      cases completed <;> cases left
  · refine ⟨now, .busy, ?_, .pauses, fun _ => ⟨rest, stands, ?_, onward⟩⟩
    · rw [upkeeps, held, ← busy]
    · rw [turns, List.lookup_cons_self]

/-- What a stretch of a turn leaves, and whether the turn is over then. -/
private theorem doTurn_stretch {stage after : Stage} {work : Program Zone Unit} {completed : Bool}
    (within : work.Within Zone.Aloof) (did : Stage.doTurn index work stage = (completed, after)) :
    work.stretch stage.zone = ((stage.advance work).1, (stage.advance work).2.zone) ∧
      completed = (stage.advance work).1.isFinished ∧
      (stage.advance work).2.zone.now = stage.zone.now := by
  have aloof := (within.advance .refl .trans (Stage.call stage.turns) stage.zone stage.queue).1
  exact ⟨Stage.advance_stretch work stage, (Stage.doTurn_cases within did).2.1, aloof.now⟩

/-- A task that has nothing to do sleeps at least until now. -/
private theorem now_le_wakesAt {upkeep : Upkeep} {now : Nat} (none : upkeep.turns now = []) :
    now ≤ upkeep.wakesAt := by
  have early := (Upkeep.turns_eq_nil_iff.mp none).2
  have reload : now * 1000000 < upkeep.reloadDue := early .reload nofun
  have reclaim : now * 1000000 < upkeep.reclaimDue := early .reclaim nofun
  unfold Upkeep.wakesAt
  omega

/-- Once others had their turn, a task is as it was, or was asked to end. -/
private theorem others_step {zone : Zone} {upkeep : Upkeep}
    (held : watch.stage.zone.upkeeps[index]? = some upkeep)
    (asked : watch.asked.isSome = upkeep.dismissed) (spares : watch.stage.zone.Spares index zone) :
    ∃ latter, zone.upkeeps[index]? = some latter ∧ latter.phase = upkeep.phase ∧
      Timesheet.Step ⟨upkeep, watch.stage.zone.now, watch.shifts, watch.asked⟩
        ⟨latter, watch.stage.zone.now, watch.shifts, watch.askedBy index zone⟩ := by
  rcases spares.upkeep upkeep held with same | dismissed
  · have unasked : watch.askedBy index zone = watch.asked := by
      rw [askedBy, same]
      cases former : watch.asked with
      | none => simp_all
      | some time => rfl
    exact ⟨upkeep, same, rfl, unasked ▸ .still⟩
  · refine ⟨_, dismissed, rfl, ?_⟩
    rw [askedBy, dismissed, spares.now]
    exact .dismiss

private theorem Sound.of_step {sheet : Timesheet} {latter : Upkeep}
    (held : after.stage.zone.upkeeps[index]? = some latter)
    (turn : latter.phase = .busy → after.InTurn index)
    (does : ∀ stint ∈ after.stints, stint.turn ≠ .stop ∧ stint.Does (Zone.turnWork stint.turn))
    {now : Nat} (still : after.stage.zone.now = now)
    (step : sheet.Step ⟨latter, now, after.shifts, after.asked⟩) :
    after.Sound index ∧ sheet.Step (after.sheet index) := by
  rw [sheet_eq held, still]
  refine ⟨⟨⟨latter, held⟩, ?_, does⟩, step⟩
  rw [sheet_eq held]
  exact turn

/-- A move of a task does to its sheet what can happen to a task, and the task stays sound. -/
theorem Sound.move (sound : watch.Sound index) (coherent : (watch.sheet index).Coherent)
    (move : Move index watch after) :
    after.Sound index ∧ (watch.sheet index).Step (after.sheet index) := by
  obtain ⟨upkeep, held⟩ := sound.held
  have known := sheet_eq held
  have turn := sound.turn
  cases move with
  | others spares same =>
    rw [known] at coherent turn ⊢
    obtain ⟨latter, now, phase, step⟩ := others_step held coherent.asked spares
    refine Sound.of_step now (fun busy => ?_) sound.does spares.now step
    obtain ⟨stint, earlier, rest, latest, found, left⟩ := turn (phase.symm.trans busy)
    exact ⟨stint, earlier, rest, latest, same.trans found, left⟩
  | begins unborn =>
    rw [known] at unborn ⊢
    refine Sound.of_step (Zone.beginUpkeep_held held) ?_ sound.does (Zone.beginUpkeep_rest held).1
      (.begin unborn)
    rw [Upkeep.begin_phase]
    split <;> nofun
  | stops idle due =>
    rw [known] at idle due ⊢
    exact Sound.of_step (Zone.held_modify held rfl) nofun sound.does rfl (.stop idle due)
  | @works turn work zone completed stage idle due taken did =>
    rw [known] at idle due ⊢
    obtain ⟨works, rfl, rfl⟩ := Zone.takeTurn_works taken
    have within := Zone.turnWork_aloof turn
    obtain ⟨goes, rfl, ends⟩ := doTurn_stretch within did
    obtain ⟨still, phase, left, leaves, busy⟩ := doTurn_leaves within did
      (Zone.held_modify held rfl) (Upkeep.take_phase works)
    refine Sound.of_step left (fun inTurn => ?_) ?_ still (.work works idle due leaves)
    · obtain ⟨rest, stands, found, onward⟩ := busy inTurn
      rw [stands] at goes
      exact ⟨_, _, rest, rfl, found, onward, .first goes⟩
    · exact List.forall_mem_cons.mpr ⟨⟨works, .first goes ends turn⟩, sound.does⟩
  | resumes inTurn latest rest woken did =>
    rw [known] at inTurn turn ⊢
    obtain ⟨stint, earlier, paused, all, found, within, comes⟩ := turn inTurn
    cases rest.symm.trans found
    cases latest.symm.trans all
    have does := sound.does
    rw [latest, List.forall_mem_cons] at does
    obtain ⟨⟨works, first⟩, others⟩ := does
    obtain ⟨goes, rfl, ends⟩ := doTurn_stretch within did
    obtain ⟨still, phase, left, leaves, busy⟩ := doTurn_leaves within did held inTurn
    refine Sound.of_step left (fun inTurn => ?_) ?_ still
      (.resume inTurn (congrArg (List.map Stint.toShift) latest) leaves)
    · obtain ⟨rest, stands, found, onward⟩ := busy inTurn
      rw [stands] at goes
      exact ⟨_, _, rest, rfl, found, onward, .next comes woken goes⟩
    · exact List.forall_mem_cons.mpr ⟨⟨works, first.next comes woken goes ends⟩, others⟩
  | @waits moment rests inTime =>
    rw [known] at inTime turn ⊢
    rw [Stage.canGo, held] at rests
    refine Sound.of_step held turn sound.does rfl
      (.wait (Nat.le_max_left _ moment) ?_ fun idle => ?_)
    · intro unborn
      simp [show upkeep.phase = .unborn from unborn] at rests
    · have none : upkeep.turns watch.stage.zone.now = [] := by
        simpa [show upkeep.phase = .idle from idle] using rests
      exact ⟨none, Nat.max_le.mpr ⟨now_le_wakesAt none, inTime idle⟩⟩

/-- What is seen of a task from when a stage has begun it. -/
def spawn (stage : Stage) : Watch := { stage := { stage with zone := stage.zone.addUpkeep.2 } }

section
variable {stage : Stage} (usable : stage.zone.newUpkeep.isUsable = true)
include usable

theorem addUpkeep_eq : stage.zone.addUpkeep = (.ok stage.zone.upkeeps.length,
    { stage.zone with upkeeps := stage.zone.upkeeps ++ [stage.zone.newUpkeep] }) := by
  rw [Zone.addUpkeep, if_pos usable]

private theorem spawn_held :
    (spawn stage).stage.zone.upkeeps[stage.zone.upkeeps.length]? = some stage.zone.newUpkeep := by
  rw [spawn, addUpkeep_eq usable]
  exact List.getElem?_concat_length

theorem spawn_sheet : (spawn stage).sheet stage.zone.upkeeps.length =
    { upkeep := stage.zone.newUpkeep, now := stage.zone.now } := by
  rw [sheet_eq (spawn_held usable), spawn, addUpkeep_eq usable]
  rfl

/-- However far a watch has come, the task is sound, and its sheet is coherent. -/
theorem spawn_sound
    (leads : Relation.ReflTransGen (Move stage.zone.upkeeps.length) (spawn stage) watch) :
    watch.Sound stage.zone.upkeeps.length ∧ (watch.sheet stage.zone.upkeeps.length).Coherent := by
  induction leads with
  | refl =>
    have sheet := spawn_sheet usable
    refine ⟨⟨⟨_, spawn_held usable⟩, ?_, List.forall_mem_nil _⟩, ?_⟩
    · rw [sheet]
      nofun
    · rw [sheet]
      exact ⟨rfl, nofun, nofun, nofun, .nil, nofun, nofun, fun _ => rfl, nofun⟩
  | tail _ move ih =>
    obtain ⟨sound, coherent⟩ := ih
    obtain ⟨onward, step⟩ := sound.move coherent move
    exact ⟨onward, coherent.step step⟩

/-- What holds of the sheet of a task that was just begun, and is kept by whatever can happen to a
task, holds however far a watch has come. -/
theorem spawn_invariant {motive : Timesheet → Prop}
    (begins : motive { upkeep := stage.zone.newUpkeep, now := stage.zone.now })
    (steps : ∀ sheet after : Timesheet, sheet.Coherent → sheet.Step after →
      motive sheet → motive after)
    (leads : Relation.ReflTransGen (Move stage.zone.upkeeps.length) (spawn stage) watch) :
    motive (watch.sheet stage.zone.upkeeps.length) := by
  induction leads with
  | refl =>
    rw [spawn_sheet usable]
    exact begins
  | tail before move ih =>
    obtain ⟨sound, coherent⟩ := spawn_sound usable before
    exact steps _ _ coherent (sound.move coherent move).2 ih

/-- No time is before the one at which the task was begun. -/
theorem spawn_now_le
    (leads : Relation.ReflTransGen (Move stage.zone.upkeeps.length) (spawn stage) watch) :
    stage.zone.now ≤ watch.stage.zone.now :=
  spawn_invariant (motive := fun sheet => stage.zone.now ≤ sheet.now) usable (Nat.le_refl _)
    (fun _ _ _ step before => Nat.le_trans before step.now_le) leads

/-- A task with an interval that its clock cannot tell never gets anywhere. -/
theorem spawn_forlorn
    (leads : Relation.ReflTransGen (Move stage.zone.upkeeps.length) (spawn stage) watch)
    (tells : stage.zone.newUpkeep.tells stage.zone.now = false) :
    (watch.sheet stage.zone.upkeeps.length).Forlorn stage.zone.now :=
  spawn_invariant usable ⟨tells, rfl, .inl ⟨rfl, rfl⟩⟩
    (fun _ _ _ step forlorn => forlorn.step step) leads

end

/-- From a task that is over, nothing leads to another turn. -/
theorem Sound.stays_over (sound : watch.Sound index) (coherent : (watch.sheet index).Coherent)
    (isOver : watch.stage.zone.isOver index = true)
    (leads : Relation.ReflTransGen (Move index) watch after) : after.shifts = watch.shifts := by
  obtain ⟨upkeep, held⟩ := sound.held
  have begins : (watch.sheet index).upkeep.isOver = true := by
    rw [Zone.isOver, held] at isOver
    rw [sheet_eq held]
    exact isOver
  suffices all : after.Sound index ∧ (after.sheet index).Coherent ∧
      (after.sheet index).upkeep.isOver = true ∧ after.shifts = watch.shifts from all.2.2.2
  induction leads with
  | refl => exact ⟨sound, coherent, begins, rfl⟩
  | tail _ move ih =>
    obtain ⟨sound, coherent, isOver, same⟩ := ih
    obtain ⟨onward, step⟩ := sound.move coherent move
    obtain ⟨stays, kept⟩ := step.stays_over isOver
    exact ⟨onward, coherent.step step, stays, kept.trans same⟩

/-- The intervals of a task in milliseconds. -/
def intervals (reloadMs reclaimMs : Nat) : Turn → Nat
  | .stop => 0
  | .reload => reloadMs
  | .reclaim => reclaimMs

section
variable {stage : Stage} {reloadMs reclaimMs : Nat}
  (reloads : stage.zone.settings.reloadEvery.toNanos = reloadMs * 1000000)
  (reclaims : stage.zone.settings.reclaimEvery.toNanos = reclaimMs * 1000000)
  (someTime : 0 < reloadMs ∧ 0 < reclaimMs)
  (leads : Relation.ReflTransGen (Move stage.zone.upkeeps.length) (spawn stage) watch)
include reloads reclaims someTime

theorem usable_of_millis : stage.zone.newUpkeep.isUsable = true := by
  refine Upkeep.isUsable_iff.mpr fun turn works => ?_
  cases turn with
  | stop => exact absurd rfl works
  | reload =>
    rw [Upkeep.every, Zone.newUpkeep, reloads]
    omega
  | reclaim =>
    rw [Upkeep.every, Zone.newUpkeep, reclaims]
    omega

include leads

theorem spawn_punctual (tells : stage.zone.newUpkeep.tells stage.zone.now = true)
    (prompt : (watch.sheet stage.zone.upkeeps.length).Prompt) :
    (watch.sheet stage.zone.upkeeps.length).Punctual stage.zone.now
      (intervals reloadMs reclaimMs) := by
  refine spawn_invariant (motive := fun sheet => sheet.Prompt →
    sheet.Punctual stage.zone.now (intervals reloadMs reclaimMs))
    (usable_of_millis reloads reclaims someTime) (fun _ => ?_) ?_ leads prompt
  · refine ⟨tells, fun turn works => ?_, fun _ => rfl, nofun, fun _ => rfl,
      fun born => absurd rfl born, fun turn _ => ⟨rfl, Nat.le_of_eq ?_, Nat.le_add_right _ _⟩⟩
    · cases turn with
      | stop => exact absurd rfl works
      | reload => exact reloads
      | reclaim => exact reclaims
    · exact Nat.add_eq_left.mpr (Nat.zero_mul _)
  · exact fun _ _ coherent step before prompt =>
      (before (coherent.prompt_before step prompt)).step coherent step prompt

end

end Watch
end ClusterPool
