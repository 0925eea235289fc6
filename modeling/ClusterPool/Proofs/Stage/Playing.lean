import ClusterPool.Proofs.Stage.Watching

/-! What a stage does in its rounds, under the eyes of somebody who watches one of its tasks. The order
in which a stage lets everybody go on is one of the many that a watcher has to expect. -/
namespace ClusterPool
open Program

namespace Zone.Spares

variable {index : Nat}

theorem refl (zone : Zone) : Spares index zone zone := ⟨rfl, fun _ held => .inl held⟩

theorem trans {first second third : Zone} (early : Spares index first second)
    (late : Spares index second third) : Spares index first third := by
  refine ⟨late.now.trans early.now, fun upkeep held => ?_⟩
  rcases early.upkeep upkeep held with same | dismissed
  · exact late.upkeep upkeep same
  · rcases late.upkeep _ dismissed with same | again
    · exact .inr same
    · exact .inr again

/-- Nothing becomes of the tasks, and no time passes. -/
theorem of_same {before after : Zone} (now : after.now = before.now)
    (upkeeps : after.upkeeps = before.upkeeps) : Spares index before after :=
  ⟨now, fun _ held => .inl (upkeeps ▸ held)⟩

/-- Another task may be changed. -/
theorem of_modify {before after : Zone} {other : Nat} {change : Upkeep → Upkeep}
    (others : other ≠ index) (now : after.now = before.now)
    (upkeeps : after.upkeeps = before.upkeeps.modify other change) : Spares index before after :=
  ⟨now, fun _ held => .inl (by
    rw [upkeeps, List.getElem?_modify_ne change _ others, held])⟩

/-- Giving a handle away asks its task to end, and does no more to any. -/
theorem dropHandle (index : Nat) (zone : Zone) : Spares index zone zone.dropHandle := by
  unfold Zone.dropHandle
  split
  · exact .refl zone
  · rename_i other _
    refine ⟨rfl, fun upkeep held => ?_⟩
    by_cases same : other = index
    · subst same
      exact .inr (by simp [updateUpkeep, held])
    · exact .inl (by simp [updateUpkeep, same, held])

end Zone.Spares

/-- Asking a task to end, and waiting until it has, spares all tasks. -/
theorem Zone.shutdown_spares (index : Nat) : shutdown.Within (Spares index) := by
  have still : ∀ zone, Spares index zone zone := .refl
  refine Within.bind (within_get still) fun zone => ?_
  split
  · trivial
  · refine Within.bind ?_ fun _ => Within.bind (within_waitFor still _) fun _ =>
      Within.bind (within_get still) fun _ => ?_
    · refine within_modify.mpr fun zone => ?_
      split
      · have reported : Spares index zone (zone.report .maintenanceGone) := .of_same rfl rfl
        exact reported.trans (.dropHandle index _)
      · exact .dropHandle index zone
    · split <;> trivial

namespace Stage

/-- What is left of the turns under way leaves all tasks alone. -/
def Tame (stage : Stage) : Prop := ∀ entry ∈ stage.turns, entry.2.next.Within Zone.Aloof

private theorem lookup_within {stage : Stage} (tame : stage.Tame) {index : Nat}
    {paused : Paused Zone Unit} (found : stage.turns.lookup index = some paused) :
    paused.next.Within Zone.Aloof := by
  obtain ⟨before, after, turns, _⟩ := List.lookup_eq_some_iff.mp found
  exact tame (index, paused) (by rw [turns]; simp)

private theorem tame_filter {stage : Stage} (tame : stage.Tame) (keep : Nat × Paused Zone Unit → Bool) :
    ({ stage with turns := stage.turns.filter keep } : Stage).Tame :=
  fun entry member => tame entry (List.mem_filter.mp member).1

private theorem lookup_filter {index other : Nat} (others : other ≠ index)
    (turns : List (Nat × Paused Zone Unit)) :
    (turns.filter fun entry => entry.1 != other).lookup index = turns.lookup index := by
  induction turns with
  | nil => rfl
  | cons entry rest ih =>
    by_cases same : entry.1 = other
    · rw [List.filter_cons_of_neg (by simp [same]), ih, List.lookup_cons,
        beq_false_of_ne (by rw [same]; exact Ne.symm others)]
    · rw [List.filter_cons_of_pos (by simp [same]), List.lookup_cons, List.lookup_cons, ih]

private theorem doTurn_tame {index : Nat} {work : Program Zone Unit} {stage after : Stage}
    {completed : Bool} (tame : stage.Tame) (within : work.Within Zone.Aloof)
    (did : doTurn index work stage = (completed, after)) : after.Tame := by
  obtain ⟨_, _, ⟨_, _, turns, _⟩ | ⟨rest, _, _, onward, turns, _⟩⟩ := doTurn_cases within did
  · rw [Tame, turns]
    exact tame
  · rw [Tame, turns]
    exact List.forall_mem_cons.mpr ⟨onward, tame⟩

/-- A task that goes on with a turn spares the others. -/
private theorem doTurn_spares {index other : Nat} (others : other ≠ index)
    {work : Program Zone Unit} {stage after : Stage} {completed : Bool}
    (within : work.Within Zone.Aloof)
    (did : doTurn other work stage = (completed, after)) :
    stage.zone.Spares index after.zone ∧ after.turns.lookup index = stage.turns.lookup index := by
  obtain ⟨now, _, ⟨_, _, turns, upkeeps⟩ | ⟨rest, _, _, onward, turns, upkeeps⟩⟩ :=
    doTurn_cases within did
  · exact ⟨.of_modify others now upkeeps, by rw [turns]⟩
  · refine ⟨.of_same now upkeeps, ?_⟩
    rw [turns, List.lookup_cons, beq_false_of_ne (Ne.symm others)]

/-- What becomes of a stage that brings a task forward. -/
inductive Moved (index : Nat) (stage : Stage) : Stage → Prop
  | rests : Moved index stage stage
  | begins {upkeep : Upkeep} (held : stage.zone.upkeeps[index]? = some upkeep)
      (unborn : upkeep.phase = .unborn) :
      Moved index stage { stage with zone := stage.zone.beginUpkeep index }
  | stops {upkeep : Upkeep} (held : stage.zone.upkeeps[index]? = some upkeep)
      (idle : upkeep.phase = .idle) (due : .stop ∈ upkeep.turns stage.zone.now) :
      Moved index stage { stage with zone := (stage.zone.takeTurn index .stop).2 }
  | works {upkeep : Upkeep} {turn : Turn} {work : Program Zone Unit} {zone : Zone} {completed : Bool}
      {after : Stage} (held : stage.zone.upkeeps[index]? = some upkeep)
      (idle : upkeep.phase = .idle) (due : turn ∈ upkeep.turns stage.zone.now)
      (taken : stage.zone.takeTurn index turn = (some work, zone))
      (did : doTurn index work { stage with zone } = (completed, after)) : Moved index stage after
  | resumes {upkeep : Upkeep} {paused : Paused Zone Unit} {completed : Bool} {after : Stage}
      (held : stage.zone.upkeeps[index]? = some upkeep) (busy : upkeep.phase = .busy)
      (rest : stage.turns.lookup index = some paused)
      (woken : paused.wake.isOver Zone.now stage.zone = true)
      (did : doTurn index paused.next { stage with
        turns := stage.turns.filter fun entry => entry.1 != index } = (completed, after)) :
      Moved index stage after

theorem moveUpkeep_moved (index : Nat) (stage : Stage) :
    Moved index stage (stage.moveUpkeep index).2 := by
  unfold moveUpkeep
  cases held : stage.zone.upkeeps[index]? with
  | none => exact .rests
  | some upkeep =>
    cases phase : upkeep.phase with
    | unborn => simpa only [phase] using .begins held phase
    | ended | lost => simpa only [phase] using .rests
    | idle =>
      simp only [phase]
      cases due : upkeep.turns stage.zone.now with
      | nil => exact .rests
      | cons turn others =>
        have first : turn ∈ upkeep.turns stage.zone.now := due ▸ List.mem_cons_self
        dsimp only
        cases taken : stage.zone.takeTurn index turn with
        | mk work zone =>
          cases work with
          | none =>
            obtain ⟨rfl, rfl⟩ := Zone.takeTurn_stops taken
            exact .stops held phase first
          | some work => exact .works held phase first taken rfl
    | busy =>
      simp only [phase]
      cases found : stage.turns.lookup index with
      | none => exact .rests
      | some paused =>
        dsimp only
        split
        · rename_i woken
          exact .resumes held phase found woken rfl
        · exact .rests

/-- A task that is brought forward leaves the turns under way tame. -/
theorem Moved.tame {index : Nat} {stage after : Stage} (moved : Moved index stage after)
    (tame : stage.Tame) : after.Tame := by
  cases moved with
  | rests | begins | stops => exact tame
  | works held idle due taken did =>
    obtain ⟨_, rfl, rfl⟩ := Zone.takeTurn_works taken
    refine doTurn_tame ?_ (Zone.turnWork_aloof _) did
    exact tame
  | resumes held busy rest woken did =>
    exact doTurn_tame (tame_filter tame _) (lookup_within tame rest) did

/-- A task that is brought forward spares the others. -/
theorem Moved.spares {index other : Nat} {stage after : Stage}
    (moved : Moved other stage after) (others : other ≠ index) (tame : stage.Tame) :
    stage.zone.Spares index after.zone ∧ after.turns.lookup index = stage.turns.lookup index := by
  cases moved with
  | rests => exact ⟨.refl _, rfl⟩
  | begins held unborn =>
    obtain ⟨now, upkeeps⟩ := Zone.beginUpkeep_rest held
    exact ⟨.of_modify others now upkeeps, rfl⟩
  | stops => exact ⟨.of_modify others rfl rfl, rfl⟩
  | works held idle due taken did =>
    obtain ⟨_, rfl, rfl⟩ := Zone.takeTurn_works taken
    obtain ⟨spares, same⟩ := doTurn_spares others (Zone.turnWork_aloof _) did
    refine ⟨Zone.Spares.trans ?_ spares, same⟩
    exact .of_modify others rfl rfl
  | resumes held busy rest woken did =>
    obtain ⟨spares, same⟩ := doTurn_spares others (lookup_within tame rest) did
    exact ⟨spares, same.trans (lookup_filter others stage.turns)⟩

end Stage

namespace Watch

variable {index : Nat} {watch : Watch} {stage after : Stage}

/-- Moves of the watched task or of others lead from a watch to this stage. -/
structure Leads (index : Nat) (watch : Watch) (stage : Stage) : Prop where
  moves : ∃ later, Relation.ReflTransGen (Move index) watch later ∧ later.stage = stage ∧
    later.Sound index ∧ (later.sheet index).Coherent
  tame : stage.Tame

namespace Leads

theorem move (leads : Leads index watch stage) (tame : after.Tame)
    (moves : ∀ later : Watch, later.stage = stage → later.Sound index →
      (later.sheet index).Coherent → ∃ last, Move index later last ∧ last.stage = after) :
    Leads index watch after := by
  obtain ⟨later, before, same, sound, coherent⟩ := leads.moves
  obtain ⟨last, move, here⟩ := moves later same sound coherent
  obtain ⟨onward, step⟩ := sound.move coherent move
  exact ⟨⟨last, before.tail move, here, onward, coherent.step step⟩, tame⟩

theorem others (leads : Leads index watch stage) (tame : after.Tame)
    (spares : stage.zone.Spares index after.zone)
    (same : after.turns.lookup index = stage.turns.lookup index) : Leads index watch after := by
  refine leads.move tame ?_
  rintro later rfl _ _
  exact ⟨_, .others spares same, rfl⟩

private theorem moved (leads : Leads index watch stage) (moved : stage.Moved index after) :
    Leads index watch after := by
  refine leads.move (moved.tame leads.tame) ?_
  rintro later rfl sound _
  cases moved with
  | rests => exact ⟨_, .others (.refl _) rfl, rfl⟩
  | begins held unborn => exact ⟨_, .begins (sheet_eq held ▸ unborn), rfl⟩
  | stops held idle due =>
    exact ⟨_, .stops (sheet_eq held ▸ idle) (sheet_eq held ▸ due), rfl⟩
  | works held idle due taken did =>
    exact ⟨_, .works (sheet_eq held ▸ idle) (sheet_eq held ▸ due) taken did, rfl⟩
  | resumes held busy rest woken did =>
    have inTurn : (later.sheet index).upkeep.phase = .busy := sheet_eq held ▸ busy
    obtain ⟨_, _, _, latest, _⟩ := sound.turn inTurn
    exact ⟨_, .resumes inTurn latest rest woken did, rfl⟩

theorem moveUpkeep (leads : Leads index watch stage) (other : Nat) :
    Leads index watch (stage.moveUpkeep other).2 := by
  have moved := stage.moveUpkeep_moved other
  by_cases itself : other = index
  · exact leads.moved (itself ▸ moved)
  · obtain ⟨spares, same⟩ := moved.spares itself leads.tame
    exact leads.others (moved.tame leads.tame) spares same

theorem driveUpkeep (other turns : Nat) (leads : Leads index watch stage) :
    Leads index watch (stage.driveUpkeep other turns) := by
  induction turns generalizing stage with
  | zero => exact leads
  | succ turns ih =>
    have moved := leads.moveUpkeep other
    unfold Stage.driveUpkeep
    split
    · rename_i result
      rw [result] at moved
      exact ih moved
    · rename_i result
      rw [result] at moved
      exact moved

theorem serve (tasks : Nat) (leads : Leads index watch stage) :
    Leads index watch (stage.serve tasks) := by
  induction tasks generalizing stage with
  | zero => exact leads
  | succ tasks ih =>
    unfold Stage.serve
    split
    · exact leads
    · rename_i next queue _
      have called : Leads index watch { stage with queue } :=
        leads.others leads.tame (.refl _) rfl
      exact ih (called.driveUpkeep next tasks)

/-- The work that is waited for goes on beside the tasks. -/
theorem advance (leads : Leads index watch stage) {work : Program Zone α}
    (within : work.Within (Zone.Spares index)) :
    Leads index watch (stage.advance work).2 ∧
      ∀ rest, (stage.advance work).1 = .paused rest → rest.next.Within (Zone.Spares index) := by
  obtain ⟨spares, left⟩ :=
    within.advance .refl .trans (Stage.call stage.turns) stage.zone stage.queue
  exact ⟨leads.others leads.tame spares rfl, left⟩

/-- Time passes when nobody can go on, up to the first moment at which somebody can. -/
theorem wait (leads : Leads index watch stage) {front : Paused Zone α}
    (none : stage.due = []) {moment : Nat} (next : stage.nextMoment? front = some moment) :
    Leads index watch { stage with zone := stage.zone.passUntil moment } := by
  refine leads.move leads.tame ?_
  rintro later rfl sound _
  obtain ⟨upkeep, held⟩ := sound.held
  have inside : index < later.stage.zone.upkeeps.length := (List.getElem?_eq_some_iff.mp held).1
  refine ⟨_, .waits moment ?_ fun idle => ?_, rfl⟩
  · exact Bool.eq_false_iff.mpr (List.filter_eq_nil_iff.mp none index (List.mem_range.mpr inside))
  · rw [sheet_eq held] at idle ⊢
    refine (List.min?_eq_some_iff.mp next).2 _ (List.mem_append_right _ ?_)
    exact List.mem_filterMap.mpr ⟨upkeep, List.mem_of_getElem? held, if_pos idle⟩

/-- Whatever a stage does in its rounds, a watcher has to expect it. -/
theorem run (rounds : Nat) (leads : Leads index watch stage) (front : Paused Zone α)
    (within : front.next.Within (Zone.Spares index)) :
    Leads index watch (Stage.run rounds front stage).2 := by
  induction rounds generalizing front stage with
  | zero => exact leads
  | succ rounds ih =>
    have called : Leads index watch stage.callDue := leads.others leads.tame (.refl _) rfl
    have advanced : ∀ result : Standing Zone α × Stage, result =
        (if front.wake.isOver Zone.now stage.callDue.zone then stage.callDue.advance front.next
        else (.paused front, stage.callDue)) →
          Leads index watch result.2 ∧
            ∀ rest, result.1 = .paused rest → rest.next.Within (Zone.Spares index) := by
      rintro _ rfl
      split
      · exact called.advance within
      · exact ⟨called, fun rest same => by cases same; exact within⟩
    unfold Stage.run
    dsimp only
    generalize stood : (if front.wake.isOver Zone.now stage.callDue.zone then
      stage.callDue.advance front.next else (.paused front, stage.callDue)) = result
    obtain ⟨onward, left⟩ := advanced result stood.symm
    obtain ⟨standing, stage⟩ := result
    cases standing with
    | finished value => exact onward
    | crashed => exact onward
    | paused front =>
      have served := onward.serve rounds
      have within := left front rfl
      dsimp only
      split
      · exact ih served front within
      · rename_i nobody
        split
        · exact served
        · rename_i moment next
          have none : (Stage.serve rounds stage).due = [] := by
            simp only [Bool.or_eq_true, not_or, Bool.not_eq_true', Bool.not_eq_false,
              List.isEmpty_iff] at nobody
            exact nobody.2
          exact ih (served.wait none next) front within

/-- Whatever work is done on a stage that spares the watched task, the watcher has to expect what
becomes of the stage. -/
theorem play (leads : Leads index watch stage) {work : Program Zone α}
    (within : work.Within (Zone.Spares index)) : Leads index watch (stage.play work).2 :=
  leads.run Stage.patience _ within

/-- A watcher who begins with a task has to expect whatever is played after that, one piece of work
after the other. -/
theorem of_spawn (usable : stage.zone.newUpkeep.isUsable = true) (tame : stage.Tame) :
    Leads stage.zone.upkeeps.length (spawn stage) (spawn stage).stage := by
  obtain ⟨sound, coherent⟩ := spawn_sound usable .refl
  exact ⟨⟨_, .refl, rfl, sound, coherent⟩, tame⟩

end Leads

end Watch
end ClusterPool
