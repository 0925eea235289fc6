import ClusterPool.Proofs.Stage.Scheduling

/-! Whoever asks a background task to end gets an answer. A task that was asked to end joins the queue
of the tasks that can go on, keeps its place there whatever the tasks before it do, and does nothing
but end when it is served. Only a task that is in a turn is waited for. -/
namespace ClusterPool
open Program

/-- An onlooker who only adds to what he has noted takes nothing back. -/
theorem Program.advance_prefix {note : σ → List ω → List ω}
    (adds : ∀ state noted, noted <+: note state noted) (work : Program σ α) (state : σ)
    (noted : List ω) : noted <+: (work.advance note state noted).2.2 := by
  induction work generalizing state noted with
  | done | crash | pause => exact List.prefix_rfl
  | act change next ih => exact (adds _ _).trans (ih _ _ _)
  | mark next ih => exact ih _ _

/-- How a task stands in the end if it is asked to end now, while it is in no turn. -/
def Upkeep.lastPhase (upkeep : Upkeep) (now : Nat) : UpkeepPhase :=
  match upkeep.phase with
  | .lost => .lost
  | .unborn => if upkeep.tells now then .ended else .lost
  | .idle | .busy | .ended => .ended

theorem Upkeep.isOver_of_lastPhase {upkeep latter : Upkeep} {now : Nat}
    (phase : latter.phase = upkeep.lastPhase now) : latter.isOver = true := by
  rw [isOver_iff, phase, lastPhase]
  split
  · exact .inr rfl
  · split
    · exact .inl rfl
    · exact .inr rfl
  all_goals exact .inl rfl

/-- A task that is over stands as it will in the end. -/
theorem Upkeep.lastPhase_of_isOver {upkeep : Upkeep} {now : Nat} (isOver : upkeep.isOver = true) :
    upkeep.lastPhase now = upkeep.phase := by
  unfold lastPhase
  rcases isOver_iff.mp isOver with phase | phase <;> rw [phase]

namespace Stage

variable {index other : Nat} {stage after : Stage} {upkeep : Upkeep}

/-! What brings a task forward. -/

theorem driveUpkeep_still (rests : stage.moveUpkeep index = (false, stage)) (turns : Nat) :
    stage.driveUpkeep index turns = stage := by
  cases turns with
  | zero => rfl
  | succ turns => rw [driveUpkeep, rests]

theorem driveUpkeep_over (isOver : stage.zone.isOver index = true) (turns : Nat) :
    stage.driveUpkeep index turns = stage := by
  refine driveUpkeep_still ?_ turns
  unfold moveUpkeep
  cases held : stage.zone.upkeeps[index]? with
  | none => rfl
  | some upkeep =>
    rcases Upkeep.isOver_iff.mp ((Zone.isOver_eq held).symm.trans isOver) with ended | lost
    · simp only [ended]
    · simp only [lost]

/-- The next turn of an idle task that was asked to end is its last one. -/
theorem driveUpkeep_idle (held : stage.zone.upkeeps[index]? = some upkeep)
    (dismissed : upkeep.dismissed = true) (idle : upkeep.phase = .idle) (turns : Nat) :
    stage.driveUpkeep index (turns + 1) =
      { stage with zone := (stage.zone.takeTurn index .stop).2 } := by
  rw [driveUpkeep, moveUpkeep, held]
  simp only [idle, Upkeep.turns, dismissed, ↓reduceIte, List.cons_append, List.nil_append]
  rfl

theorem stopped_held {zone : Zone} (held : zone.upkeeps[index]? = some upkeep) :
    (zone.takeTurn index .stop).2.upkeeps[index]? = some { upkeep with phase := .ended } := by
  have changed : (zone.takeTurn index .stop).2.upkeeps =
      zone.upkeeps.modify index fun upkeep => { upkeep with phase := .ended } := rfl
  have ended := Zone.held_modify held changed
  exact ended

/-- A task that was asked to end is brought to its end, or is lost in its first turn. -/
private theorem driveUpkeep_ends (held : stage.zone.upkeeps[index]? = some upkeep)
    (dismissed : upkeep.dismissed = true) (rests : upkeep.phase ≠ .busy) (turns : Nat) :
    ∃ latter, (stage.driveUpkeep index (turns + 2)).zone.upkeeps[index]? = some latter ∧
      latter.phase = upkeep.lastPhase stage.zone.now := by
  unfold Upkeep.lastPhase
  cases phase : upkeep.phase with
  | busy => exact absurd phase rests
  | ended | lost =>
    rw [driveUpkeep_over ((Zone.isOver_eq held).trans (Upkeep.isOver_iff.mpr (by simp [phase])))]
    exact ⟨upkeep, held, phase⟩
  | idle =>
    rw [driveUpkeep_idle held dismissed phase]
    exact ⟨_, stopped_held held, rfl⟩
  | unborn =>
    have begins : stage.moveUpkeep index =
        (true, { stage with zone := stage.zone.beginUpkeep index }) := by
      unfold moveUpkeep
      rw [held]
      simp only [phase]
    have begun := Zone.beginUpkeep_held held
    have first : (upkeep.begin stage.zone.now).phase =
        if upkeep.tells stage.zone.now then .idle else .lost := Upkeep.begin_phase
    rw [driveUpkeep, begins]
    dsimp only
    cases tells : upkeep.tells stage.zone.now with
    | true =>
      rw [if_pos tells] at first
      rw [driveUpkeep_idle begun (Upkeep.begin_dismissed.trans dismissed) first]
      exact ⟨_, stopped_held begun, rfl⟩
    | false =>
      rw [if_neg (by rw [tells]; nofun)] at first
      rw [driveUpkeep_over ((Zone.isOver_eq begun).trans (Upkeep.isOver_iff.mpr (.inr first)))]
      exact ⟨_, begun, first⟩

/-! What others do to those who wait in the queue. -/

/-- Whoever waits in the queue keeps his place. -/
private theorem doTurn_queue {work : Program Zone Unit} {completed : Bool}
    (did : doTurn index work stage = (completed, after)) : stage.queue <+: after.queue := by
  have kept : stage.queue <+: (work.advance (call stage.turns) stage.zone stage.queue).2.2 :=
    work.advance_prefix (fun zone queue => List.prefix_append queue _) stage.zone stage.queue
  unfold doTurn Stage.advance at did
  generalize Program.advance (call stage.turns) work stage.zone stage.queue = result at kept did
  obtain ⟨standing, zone, queue⟩ := result
  cases standing <;>
  · obtain ⟨_, rfl⟩ := Prod.mk.inj did
    exact kept

private theorem Moved.queue (moved : Moved index stage after) : stage.queue <+: after.queue := by
  cases moved with
  | rests | begins | stops => exact List.prefix_rfl
  | works held idle due taken did | resumes held busy rest woken did =>
    have kept := doTurn_queue did
    exact kept

/-- A stage went on without one of its tasks: nothing but a request to end can have come to that one,
and nobody lost his place in the queue. -/
private structure Passes (index : Nat) (before after : Stage) : Prop where
  spares : before.zone.Spares index after.zone
  queue : before.queue <+: after.queue
  tame : after.Tame

private theorem moveUpkeep_passes (others : other ≠ index) (tame : stage.Tame) :
    Passes index stage (stage.moveUpkeep other).2 := by
  have moved := stage.moveUpkeep_moved other
  exact ⟨(moved.spares others tame).1, moved.queue, moved.tame tame⟩

/-- A law of single moves that also holds of none, and of two together, holds of as many moves as a
task makes at once. -/
private theorem driveUpkeep_induct {motive : Stage → Stage → Prop} (rests : ∀ stage, motive stage stage)
    (follows : ∀ first second third, motive first second → motive second third → motive first third)
    (moves : ∀ stage, motive stage (stage.moveUpkeep other).2) (stage : Stage) (turns : Nat) :
    motive stage (stage.driveUpkeep other turns) := by
  induction turns generalizing stage with
  | zero => exact rests stage
  | succ turns ih =>
    have moved := moves stage
    unfold driveUpkeep
    split
    · rename_i result
      rw [result] at moved
      exact follows _ _ _ moved (ih _)
    · rename_i result
      rw [result] at moved
      exact moved

private theorem driveUpkeep_passes (others : other ≠ index) (tame : stage.Tame) (turns : Nat) :
    Passes index stage (stage.driveUpkeep other turns) := by
  refine driveUpkeep_induct (motive := fun before after => before.Tame → Passes index before after)
    (fun before tame => ⟨.refl _, List.prefix_rfl, tame⟩) ?_
    (fun before tame => moveUpkeep_passes others tame) stage turns tame
  intro first second third passes onward tame
  have passes := passes tame
  have onward := onward passes.tame
  exact ⟨passes.spares.trans onward.spares, passes.queue.trans onward.queue, onward.tame⟩

private theorem driveUpkeep_tame (tame : stage.Tame) (turns : Nat) :
    (stage.driveUpkeep other turns).Tame :=
  driveUpkeep_induct (motive := fun before after => before.Tame → after.Tame) (fun _ => id)
    (fun _ _ _ earlier later => later ∘ earlier)
    (fun before => (before.moveUpkeep_moved other).tame) stage turns tame

/-! The queue is served. -/

private theorem serve_over (tame : stage.Tame) (held : stage.zone.upkeeps[index]? = some upkeep)
    (isOver : upkeep.isOver = true) (tasks : Nat) :
    ∃ latter, (stage.serve tasks).zone.upkeeps[index]? = some latter ∧
      latter.phase = upkeep.phase := by
  induction tasks generalizing stage upkeep with
  | zero => exact ⟨upkeep, held, rfl⟩
  | succ tasks ih =>
    unfold serve
    split
    · exact ⟨upkeep, held, rfl⟩
    · rename_i first queue _
      have called : ({ stage with queue } : Stage).Tame := tame
      by_cases itself : first = index
      · have same : ({ stage with queue } : Stage).zone.upkeeps[index]? = some upkeep := held
        rw [itself, driveUpkeep_over ((Zone.isOver_eq same).trans isOver)]
        exact ih called held isOver
      · have passes := driveUpkeep_passes itself called tasks
        obtain ⟨latter, now, same⟩ := passes.spares.phase held
        have still : latter.isOver = true := by
          rw [Upkeep.isOver, same]
          exact isOver
        obtain ⟨last, ends, phase⟩ := ih passes.tame now still
        exact ⟨last, ends, phase.trans same⟩

/-- A task that was asked to end and is served next is over then, and stays so. -/
private theorem serve_first (tame : stage.Tame) (held : stage.zone.upkeeps[index]? = some upkeep)
    (dismissed : upkeep.dismissed = true) (rests : upkeep.phase ≠ .busy) {later : List Nat}
    (queue : stage.queue = index :: later) (tasks : Nat) :
    ∃ latter, (stage.serve (tasks + 3)).zone.upkeeps[index]? = some latter ∧
      latter.phase = upkeep.lastPhase stage.zone.now := by
  have called : ({ stage with queue := later } : Stage).Tame := tame
  have same : ({ stage with queue := later } : Stage).zone.upkeeps[index]? = some upkeep := held
  obtain ⟨latter, now, phase⟩ := driveUpkeep_ends same dismissed rests tasks
  obtain ⟨last, ends, same⟩ :=
    serve_over (driveUpkeep_tame called _) now (Upkeep.isOver_of_lastPhase phase) (tasks + 2)
  rw [serve, queue]
  exact ⟨last, ends, same.trans phase⟩

/-- A task that was asked to end and waits in the queue is over when the queue was served. -/
private theorem serve_ends (tame : stage.Tame) (held : stage.zone.upkeeps[index]? = some upkeep)
    (dismissed : upkeep.dismissed = true) (rests : upkeep.phase ≠ .busy) {before : List Nat}
    (queued : before ++ [index] <+: stage.queue) (tasks : Nat) :
    ∃ latter, (stage.serve (tasks + before.length + 3)).zone.upkeeps[index]? = some latter ∧
      latter.phase = upkeep.lastPhase stage.zone.now := by
  -- Along the tasks before it in the queue, none of which touches it or takes its place.
  induction before generalizing stage with
  | nil =>
    obtain ⟨later, queue⟩ := queued
    exact serve_first tame held dismissed rests queue.symm _
  | cons first before ih =>
    obtain ⟨later, queue⟩ := queued
    by_cases itself : first = index
    · exact serve_first tame held dismissed rests (itself ▸ queue.symm) _
    · have called : ({ stage with queue := before ++ [index] ++ later } : Stage).Tame := tame
      have passes := driveUpkeep_passes itself called (tasks + before.length + 3)
      have same : (driveUpkeep first (tasks + before.length + 3)
          { stage with queue := before ++ [index] ++ later }).zone.upkeeps[index]? = some upkeep := by
        rcases passes.spares.upkeep upkeep held with same | again
        · exact same
        · rw [again, ← dismissed]
      have served := ih passes.tame same ((List.prefix_append _ later).trans passes.queue)
      rw [passes.spares.now] at served
      rw [List.length_cons, serve, ← queue]
      exact served

/-! The rounds of a stage. -/

/-- What is left of asking a task to end while one waits for that. -/
def waiting (index : Nat) : Paused Zone (Option (Except Fault Unit)) :=
  ⟨{ ready := Zone.isOver index }, Zone.farewell index⟩

/-- Whoever waits for the end of a task gets this answer, if he waits for enough rounds. -/
def Releases (index : Nat) (answer : Except Fault Unit) (stage : Stage) : Prop :=
  ∃ enough, ∀ rounds, enough ≤ rounds → (run rounds (waiting index) stage).1 = some (some answer)

/-- Whoever asks the task that the stage has a handle of to end gets this answer, if he waits for
enough rounds. -/
def Answers (answer : Except Fault Unit) (stage : Stage) : Prop :=
  ∃ enough, ∀ rounds, enough ≤ rounds →
    (run rounds ⟨{ alarm := some 0 }, Zone.shutdown⟩ stage).1 = some (some answer)

/-- What is left of a round when its tasks have been served, with the rounds after it. -/
def goOn (rounds : Nat) (front : Paused Zone α) (stage : Stage) : Option α × Stage :=
  if front.wake.isOver Zone.now stage.zone || !stage.due.isEmpty then run rounds front stage
  else match stage.nextMoment? front with
    | none => (none, stage)
    | some moment => run rounds front { stage with zone := stage.zone.passUntil moment }

private theorem run_of_finished {wake : Wake Zone} {next : Program Zone α} {value : α}
    (woken : wake.isOver Zone.now stage.callDue.zone = true)
    (ends : (stage.callDue.advance next).1 = .finished value) (rounds : Nat) :
    (run (rounds + 1) ⟨wake, next⟩ stage).1 = some value := by
  rw [run]
  dsimp only
  rw [if_pos woken]
  generalize stage.callDue.advance next = result at ends
  obtain ⟨standing, after⟩ := result
  cases ends
  rfl

private theorem run_of_paused {wake : Wake Zone} {next : Program Zone α} {rest : Paused Zone α}
    (woken : wake.isOver Zone.now stage.callDue.zone = true)
    (pauses : stage.callDue.advance next = (.paused rest, after)) (rounds : Nat) :
    run (rounds + 1) ⟨wake, next⟩ stage = goOn rounds rest (after.serve rounds) := by
  rw [run]
  dsimp only
  rw [if_pos woken, pauses]
  rfl

private theorem run_of_early {front : Paused Zone α}
    (early : front.wake.isOver Zone.now stage.callDue.zone = false) (rounds : Nat) :
    run (rounds + 1) front stage = goOn rounds front (stage.callDue.serve rounds) := by
  rw [run]
  dsimp only
  rw [if_neg (Bool.eq_false_iff.mp early)]
  rfl

theorem waiting_isOver (index : Nat) (zone : Zone) :
    (waiting index).wake.isOver Zone.now zone = zone.isOver index := by
  simp [waiting, Wake.isOver]

/-- How a task has ended that stands so in the end. -/
def outcome (phase : UpkeepPhase) : Except Fault Unit :=
  if phase = .lost then .error .taskLost else .ok ()

private theorem advance_farewell (held : stage.zone.upkeeps[index]? = some upkeep) :
    (stage.advance (Zone.farewell index)).1 = .finished (some (outcome upkeep.phase)) :=
  congrArg (fun answer => Standing.finished (some answer)) (Zone.ending_eq held)

private theorem run_of_isOver (held : stage.zone.upkeeps[index]? = some upkeep)
    (isOver : upkeep.isOver = true) (rounds : Nat) :
    (run (rounds + 1) (waiting index) stage).1 = some (some (outcome upkeep.phase)) := by
  have known : stage.callDue.zone.upkeeps[index]? = some upkeep := held
  refine run_of_finished ?_ (advance_farewell known) rounds
  exact (waiting_isOver index _).trans ((Zone.isOver_eq known).trans isOver)

/-- Whoever waits for the end of the task gets this answer, with enough tasks served in this round,
and enough rounds after it. -/
def Settles (index : Nat) (answer : Except Fault Unit) (stage : Stage) : Prop :=
  ∃ enough, ∀ rounds tasks, enough ≤ rounds → enough ≤ tasks →
    (goOn rounds (waiting index) (stage.serve tasks)).1 = some (some answer)

variable {answer : Except Fault Unit}

theorem Settles.releases (settles : stage.callDue.Settles index answer)
    (lasts : stage.zone.isOver index = false) : stage.Releases index answer := by
  obtain ⟨enough, answers⟩ := settles
  refine ⟨enough + 1, fun rounds few => ?_⟩
  obtain ⟨rounds, rfl⟩ := Nat.exists_eq_add_of_le' few
  rw [← Nat.add_assoc, run_of_early ((waiting_isOver index _).trans lasts)]
  exact answers _ _ (Nat.le_add_left _ _) (Nat.le_add_left _ _)

/-- If serving the tasks leaves the awaited one at its end, nothing more is waited for. -/
private theorem settles_of_served (few : Nat) {phase : UpkeepPhase}
    (served : ∀ tasks, few ≤ tasks → ∃ latter, (stage.serve tasks).zone.upkeeps[index]? = some latter ∧
      latter.isOver = true ∧ latter.phase = phase) : stage.Settles index (outcome phase) := by
  refine ⟨few + 1, fun rounds tasks some enough => ?_⟩
  obtain ⟨latter, held, isOver, rfl⟩ := served tasks (Nat.le_of_succ_le enough)
  obtain ⟨rounds, rfl⟩ := Nat.exists_eq_add_of_le' some
  have woken : (waiting index).wake.isOver Zone.now (stage.serve tasks).zone = true :=
    (waiting_isOver index _).trans ((Zone.isOver_eq held).trans isOver)
  rw [goOn, woken, Bool.true_or, if_pos rfl]
  exact run_of_isOver held isOver _

theorem settles_of_over (tame : stage.Tame)
    (held : stage.zone.upkeeps[index]? = some upkeep) (isOver : upkeep.isOver = true) :
    stage.Settles index (outcome upkeep.phase) :=
  settles_of_served 0 fun tasks _ => by
    obtain ⟨latter, now, phase⟩ := serve_over tame held isOver tasks
    rw [Upkeep.isOver, ← phase] at isOver
    exact ⟨latter, now, isOver, phase⟩

/-- Who is first in the queue is brought forward, and the rest of the queue is served then. -/
theorem Settles.of_driven {first : Nat} {queue : List Nat}
    (queued : stage.queue = first :: queue)
    (driven : ∀ turns, ({ stage with queue } : Stage).driveUpkeep first (turns + 2) = after)
    (settles : after.Settles index answer) : stage.Settles index answer := by
  obtain ⟨enough, answers⟩ := settles
  refine ⟨enough + 3, fun rounds tasks some few => ?_⟩
  obtain ⟨tasks, rfl⟩ := Nat.exists_eq_add_of_le' few
  have served : stage.serve (tasks + (enough + 3)) = after.serve (tasks + enough + 2) := by
    rw [show tasks + (enough + 3) = tasks + enough + 2 + 1 by omega, serve, queued]
    exact congrArg (serve _) (driven _)
  rw [served]
  exact answers _ _ (by omega) (by omega)

/-! A task that is in no turn. -/

/-- The tasks that can go on join the queue. -/
def notified (stage : Stage) : Stage :=
  { stage with queue := call stage.turns stage.zone stage.queue }

theorem mem_called {queue called : List Nat} (goes : index ∈ called) :
    index ∈ queue ++ called.filter fun index => !queue.contains index :=
  List.mem_append.mpr (Decidable.or_iff_not_imp_left.mpr fun absent =>
    List.mem_filter.mpr ⟨goes, by simp [absent]⟩)

/-- A task that can go on waits in the queue as soon as somebody looks. -/
private theorem mem_notified (held : stage.zone.upkeeps[index]? = some upkeep)
    (goes : canGo (fun wake => wake.ready stage.zone) stage.turns stage.zone index = true) :
    index ∈ stage.notified.queue := by
  have inside : index < stage.zone.upkeeps.length := (List.getElem?_eq_some_iff.mp held).1
  exact List.mem_append.mpr (Decidable.or_iff_not_imp_left.mpr fun absent =>
    List.mem_filter.mpr ⟨List.mem_range.mpr inside, by simp [goes, absent]⟩)

theorem mem_due (held : stage.zone.upkeeps[index]? = some upkeep) : index ∈ stage.due ↔
    canGo (fun wake => wake.isOver Zone.now stage.zone) stage.turns stage.zone index = true := by
  have inside : index < stage.zone.upkeeps.length := (List.getElem?_eq_some_iff.mp held).1
  rw [due, List.mem_filter, List.mem_range]
  exact and_iff_right inside

/-- A task that was asked to end can go on, unless it is in a turn. -/
private theorem canGo_dismissed {enough : Wake Zone → Bool} {turns : List (Nat × Paused Zone Unit)}
    {zone : Zone} (held : zone.upkeeps[index]? = some upkeep) (dismissed : upkeep.dismissed = true)
    (rests : upkeep.phase ≠ .busy) (lasts : ¬upkeep.isOver = true) :
    canGo enough turns zone index = true := by
  unfold canGo
  rw [held]
  cases phase : upkeep.phase with
  | busy => exact absurd phase rests
  | ended | lost => exact absurd (Upkeep.isOver_iff.mpr (by simp [phase])) lasts
  | unborn => simp only [phase]
  | idle => simp [phase, Upkeep.turns, dismissed]

theorem canGo_over {enough : Wake Zone → Bool} {turns : List (Nat × Paused Zone Unit)}
    {zone : Zone} (isOver : zone.isOver index = true) : canGo enough turns zone index = false := by
  unfold canGo
  cases held : zone.upkeeps[index]? with
  | none => rfl
  | some upkeep =>
    rcases Upkeep.isOver_iff.mp ((Zone.isOver_eq held).symm.trans isOver) with ended | lost
    · simp only [ended]
    · simp only [lost]

/-- Whoever waits for the end of a task that was asked for it, and now waits in the queue, gets his
answer. -/
private theorem settles_of_queued (tame : stage.Tame)
    (held : stage.zone.upkeeps[index]? = some upkeep) (dismissed : upkeep.dismissed = true)
    (rests : upkeep.phase ≠ .busy) (queued : index ∈ stage.queue) :
    stage.Settles index (outcome (upkeep.lastPhase stage.zone.now)) := by
  obtain ⟨before, later, queue⟩ := List.append_of_mem queued
  refine settles_of_served (before.length + 3) fun tasks few => ?_
  obtain ⟨tasks, rfl⟩ := Nat.exists_eq_add_of_le' few
  obtain ⟨latter, now, phase⟩ := serve_ends tame held dismissed rests
    ⟨later, by rw [queue, List.append_assoc]; rfl⟩ tasks
  rw [← Nat.add_assoc]
  exact ⟨latter, now, Upkeep.isOver_of_lastPhase phase, phase⟩

/-- Whoever waits for the end of a task that was asked for it, and is in no turn, gets an answer. -/
theorem releases (tame : stage.Tame) (held : stage.zone.upkeeps[index]? = some upkeep)
    (dismissed : upkeep.dismissed = true) (rests : upkeep.phase ≠ .busy) :
    stage.Releases index
      (if upkeep.lastPhase stage.zone.now = .lost then .error .taskLost else .ok ()) := by
  by_cases isOver : upkeep.isOver = true
  · refine ⟨1, fun rounds few => ?_⟩
    obtain ⟨rounds, rfl⟩ := Nat.exists_eq_add_of_le' few
    rw [Upkeep.lastPhase_of_isOver isOver]
    exact run_of_isOver held isOver rounds
  · refine Settles.releases ?_ ((Zone.isOver_eq held).trans (Bool.eq_false_iff.mpr isOver))
    have goes : index ∈ stage.due := (mem_due held).mpr (canGo_dismissed held dismissed rests isOver)
    have called : stage.callDue.Tame := tame
    have known : stage.callDue.zone.upkeeps[index]? = some upkeep := held
    exact settles_of_queued called known dismissed rests (mem_called goes)

/-! Who asks a task to end waits for that. -/

/-- What is asked of a task is known to it at once. -/
theorem asking_held {zone : Zone} (handle : zone.handle = some index)
    (held : zone.upkeeps[index]? = some upkeep) :
    (zone.asking index).upkeeps[index]? = some { upkeep with dismissed := true } := by
  have dropped : ∀ known : Zone, known.handle = some index → known.upkeeps = zone.upkeeps →
      known.dropHandle.upkeeps[index]? = some { upkeep with dismissed := true } := by
    intro known same upkeeps
    simp [Zone.dropHandle, same, Zone.updateUpkeep, upkeeps, held]
  unfold Zone.asking
  split
  · exact dropped _ handle rfl
  · exact dropped _ handle rfl

/-- Asking a task to end changes the tasks and the handle, and may be reported. -/
theorem asking_rest (index : Nat) (zone : Zone) : (zone.asking index).clock = zone.clock ∧
    (zone.asking index).reloading = zone.reloading ∧
    (zone.asking index).bookkeeping = zone.bookkeeping := by
  unfold Zone.asking Zone.dropHandle
  split <;> split <;> exact ⟨rfl, rfl, rfl⟩

/-- No other task is over by that, or goes on again. -/
theorem asking_isOver (index other : Nat) (zone : Zone) :
    (zone.asking index).isOver other = zone.isOver other := by
  have dropped : ∀ known : Zone, known.dropHandle.isOver other = known.isOver other := by
    intro known
    unfold Zone.dropHandle Zone.isOver Zone.updateUpkeep
    split
    · rfl
    · simp only [List.getElem?_modify]
      cases known.upkeeps[other]? with
      | none => rfl
      | some upkeep =>
        dsimp only [Option.map_some]
        split <;> rfl
  unfold Zone.asking
  split
  · exact dropped (zone.report .maintenanceGone)
  · exact dropped zone

private theorem advance_get (stage : Stage) (next : Zone → Program Zone α) :
    stage.advance (get.bind next) = stage.notified.advance (next stage.zone) := rfl

private theorem advance_modify (stage : Stage) (change : Zone → Zone) (next : Unit → Program Zone α) :
    stage.advance ((Program.modify change).bind next) =
      ({ stage with zone := change stage.zone } : Stage).notified.advance (next ()) := rfl

private theorem advance_waitFor (stage : Stage) (ready : Zone → Bool) (next : Unit → Program Zone α) :
    stage.advance ((waitFor ready).bind next) =
      if ready stage.zone then stage.notified.advance (next ())
      else (.paused ⟨{ ready }, next ()⟩, stage.notified) := by
  cases isReady : ready stage.zone with
  | true => simp [Stage.advance, waitFor, Program.bind, Program.advance, isReady, notified]
  | false => simp [Stage.advance, waitFor, Program.bind, Program.advance, isReady, notified]

/-- The stage once the task that it has a handle of was asked to end, before anybody goes on. -/
def asked (index : Nat) (stage : Stage) : Stage :=
  ({ stage.callDue.notified with zone := stage.zone.asking index } : Stage).notified.notified

private theorem advance_shutdown (handle : stage.zone.handle = some index) :
    stage.callDue.advance Zone.shutdown =
      if (stage.zone.asking index).isOver index then
        (stage.asked index).advance (Zone.farewell index)
      else (.paused (waiting index), stage.asked index) := by
  have same : stage.callDue.zone.handle = some index := handle
  rw [Zone.shutdown_eq, advance_get, same, advance_modify]
  exact advance_waitFor _ _ _

/-- Whoever asks the task to end waits for that, if it lasts. -/
theorem Settles.answers (handle : stage.zone.handle = some index)
    (lasts : (stage.zone.asking index).isOver index = false)
    (settles : (stage.asked index).Settles index answer) : stage.Answers answer := by
  obtain ⟨enough, answers⟩ := settles
  refine ⟨enough + 1, fun rounds few => ?_⟩
  obtain ⟨rounds, rfl⟩ := Nat.exists_eq_add_of_le' few
  have pauses := advance_shutdown handle
  rw [if_neg (Bool.eq_false_iff.mp lasts)] at pauses
  rw [← Nat.add_assoc, run_of_paused (by simp [Wake.isOver]) pauses]
  exact answers _ _ (Nat.le_add_left _ _) (Nat.le_add_left _ _)

/-- Whoever asks a task that is in no turn to end gets an answer: that it has ended, unless it is lost,
or is lost in its first turn. -/
theorem answers (tame : stage.Tame) (held : stage.zone.upkeeps[index]? = some upkeep)
    (handle : stage.zone.handle = some index) (rests : upkeep.phase ≠ .busy) :
    stage.Answers
      (if upkeep.lastPhase stage.zone.now = .lost then .error .taskLost else .ok ()) := by
  have known := asking_held handle held
  by_cases isOver : upkeep.isOver = true
  · refine ⟨1, fun rounds few => ?_⟩
    obtain ⟨rounds, rfl⟩ := Nat.exists_eq_add_of_le' few
    have ends := advance_shutdown handle
    rw [if_pos ((Zone.isOver_eq known).trans isOver)] at ends
    rw [Upkeep.lastPhase_of_isOver isOver]
    refine run_of_finished (by simp [Wake.isOver]) ?_ rounds
    rw [ends]
    have asked : (stage.asked index).zone.upkeeps[index]? =
        some { upkeep with dismissed := true } := known
    have farewell := advance_farewell asked
    exact farewell
  · have lasts : (stage.zone.asking index).isOver index = false :=
      (Zone.isOver_eq known).trans (Bool.eq_false_iff.mpr isOver)
    have called : (stage.asked index).Tame := tame
    have now : (stage.asked index).zone.now = stage.zone.now :=
      congrArg Clock.elapsed (asking_rest index stage.zone).1
    have goes : canGo (fun wake => wake.ready (stage.zone.asking index)) stage.turns
        (stage.zone.asking index) index = true := canGo_dismissed known rfl rests isOver
    have settles := settles_of_queued called known rfl rests (mem_notified known goes)
    rw [now] at settles
    exact settles.answers handle lasts

end Stage
end ClusterPool
