import ClusterPool.Proofs.Stage.Answering
import ClusterPool.Proofs.Stage.Enduring

/-! A task that is asked to end while it is in a turn. It goes on with the turn first. If nobody else is
about, it comes to the end of the turn, since a turn has finitely many pauses, all of which end, and
after that the task ends too. -/
namespace ClusterPool
open Program

namespace Stage

variable {index : Nat} {stage after : Stage} {upkeep : Upkeep} {answer : Except Fault Unit}

/-- A task is in a turn, has to pause there, and finds nobody else about. -/
structure Solitary (index : Nat) (upkeep : Upkeep) (paused : Paused Zone Unit) (stage : Stage) :
    Prop where
  held : stage.zone.upkeeps[index]? = some upkeep
  busy : upkeep.phase = .busy
  turns : stage.turns = [(index, paused)]
  others : ∀ other, other ≠ index → stage.zone.isOver other = true
  within : paused.next.Within Zone.Aloof
  bides : ∃ tickets, Zone.undisturbed.finds tickets stage.zone ∧
    Zone.undisturbed.ends paused.wake tickets ∧ paused.next.Endures Zone.undisturbed tickets {}

namespace Solitary

variable {paused : Paused Zone Unit}

/-- Whatever else becomes of the stage, the task is alone as long as the other tasks, the gates and
the clock are left as they are. -/
private theorem keep (solitary : stage.Solitary index upkeep paused) {latter : Upkeep}
    (held : after.zone.upkeeps[index]? = some latter) (phase : latter.phase = upkeep.phase)
    (turns : after.turns = stage.turns)
    (others : ∀ other, other ≠ index → after.zone.isOver other = stage.zone.isOver other)
    (readable : stage.zone.Readable → after.zone.Readable)
    (gates : after.zone.reloading = stage.zone.reloading ∧
      after.zone.bookkeeping = stage.zone.bookkeeping) : after.Solitary index latter paused where
  held := held
  busy := phase.trans solitary.busy
  turns := turns.trans solitary.turns
  others other differs := (others other differs).trans (solitary.others other differs)
  within := solitary.within
  bides := by
    obtain ⟨tickets, found, bides⟩ := solitary.bides
    have lenient := Zone.undisturbed_lenient
    exact ⟨tickets, lenient.still found (readable (lenient.readable found)) gates.1 gates.2, bides⟩

private theorem queue (solitary : stage.Solitary index upkeep paused) (queue : List Nat) :
    ({ stage with queue } : Stage).Solitary index upkeep paused :=
  solitary.keep solitary.held rfl rfl (fun _ _ => rfl) id ⟨rfl, rfl⟩

private theorem passUntil (solitary : stage.Solitary index upkeep paused) (moment : Nat) :
    ({ stage with zone := stage.zone.passUntil moment } : Stage).Solitary index upkeep paused :=
  solitary.keep solitary.held rfl rfl (fun _ _ => rfl) id ⟨rfl, rfl⟩

private theorem isOver (solitary : stage.Solitary index upkeep paused) :
    stage.zone.isOver index = false := by
  rw [Zone.isOver_eq solitary.held, Upkeep.isOver, solitary.busy]
  rfl

private theorem lookup (solitary : stage.Solitary index upkeep paused) :
    stage.turns.lookup index = some paused := by
  rw [solitary.turns, List.lookup_cons_self]

/-- A task that is not woken stays where it is. -/
private theorem driveUpkeep_early (solitary : stage.Solitary index upkeep paused)
    (early : ¬paused.wake.isOver Zone.now stage.zone = true) (turns : Nat) :
    stage.driveUpkeep index turns = stage := by
  refine driveUpkeep_still ?_ turns
  unfold moveUpkeep
  rw [solitary.held]
  simp only [solitary.busy, solitary.lookup]
  rw [if_neg early]

/-- A task that was asked to end and is woken ends when its turn does, or else is alone at its next
pause. -/
private theorem driveUpkeep_woken (solitary : stage.Solitary index upkeep paused)
    (dismissed : upkeep.dismissed = true) (woken : paused.wake.isOver Zone.now stage.zone = true) :
    ∃ after, (∀ turns, stage.driveUpkeep index (turns + 2) = after) ∧
      ((after.Tame ∧ after.zone.upkeeps[index]? = some { upkeep with phase := .ended }) ∨
      ∃ rest, (paused.next.stretch stage.zone).1 = .paused rest ∧
        after.Solitary index upkeep rest) := by
  have moves : stage.moveUpkeep index = doTurn index paused.next { stage with turns := [] } := by
    unfold moveUpkeep
    rw [solitary.held]
    simp only [solitary.busy, solitary.lookup]
    rw [if_pos woken, solitary.turns]
    simp
  obtain ⟨tickets, found, _, endures⟩ := solitary.bides
  let called : Stage := { stage with turns := [] }
  have free : Zone.undisturbed.finds tickets called.zone := found
  generalize did : doTurn index paused.next called = result at moves
  obtain ⟨completed, after⟩ := result
  rcases doTurn_endures Zone.undisturbed_lenient solitary.within endures free did
    with ⟨rfl, turns, _, upkeeps⟩ | ⟨rest, tickets, rfl, turns, finds, ends, onward, goes, upkeeps⟩
  · -- The turn is over, and the next one is the last.
    have held := Zone.held_modify solitary.held upkeeps
    have ended := stopped_held held
    refine ⟨{ after with zone := (after.zone.takeTurn index .stop).2 }, fun left => ?_,
      .inl ⟨?_, ended⟩⟩
    · rw [driveUpkeep, moves]
      exact driveUpkeep_idle held dismissed rfl left
    · rw [Tame, turns]
      exact List.forall_mem_nil _
  · refine ⟨after, fun left => ?_, .inr ⟨rest, goes, ?_⟩⟩
    · rw [driveUpkeep, moves]
    · obtain ⟨_, within⟩ :=
        solitary.within.advance .refl .trans (call called.turns) called.zone called.queue
      refine ⟨upkeeps ▸ solitary.held, solitary.busy, turns, fun other differs => ?_,
        within rest ?_, tickets, finds, ends, onward⟩
      · rw [Zone.isOver, upkeeps]
        exact solitary.others other differs
      · rw [Program.advance_stretch] at goes
        exact goes

private theorem canGo_eq (solitary : stage.Solitary index upkeep paused) (enough : Wake Zone → Bool) :
    canGo enough stage.turns stage.zone index = enough paused.wake := by
  unfold canGo
  rw [solitary.held]
  simp only [solitary.busy, solitary.lookup, Option.any_some]

/-- Until the task is woken nobody can go on. -/
private theorem due_eq_nil (solitary : stage.Solitary index upkeep paused)
    (early : ¬paused.wake.isOver Zone.now stage.zone = true) : stage.due = [] := by
  refine List.filter_eq_nil_iff.mpr fun other _ goes => ?_
  by_cases itself : other = index
  · subst itself
    exact early ((solitary.canGo_eq _).symm.trans goes)
  · rw [canGo_over (solitary.others other itself)] at goes
    cases goes

/-- While the task pauses, the next moment at which anybody goes on is that of its alarm. -/
private theorem nextMoment? (solitary : stage.Solitary index upkeep paused) {moment : Nat}
    (alarm : paused.wake.alarm = some moment) :
    stage.nextMoment? (waiting index) = some moment := by
  have awake : (stage.zone.upkeeps.filterMap fun upkeep =>
      if upkeep.phase = .idle then some upkeep.wakesAt else none) = [] := by
    refine List.filterMap_eq_nil_iff.mpr fun other member => ?_
    obtain ⟨number, held⟩ := List.getElem?_of_mem member
    refine if_neg fun idle => ?_
    by_cases itself : number = index
    · subst itself
      rw [solitary.held] at held
      cases held
      rw [solitary.busy] at idle
      cases idle
    · have isOver := solitary.others number itself
      rw [Zone.isOver_eq held, Upkeep.isOver_iff, idle] at isOver
      simp at isOver
  unfold Stage.nextMoment?
  simp [waiting, solitary.turns, alarm, awake]

/-- How the task stands in the queue makes no difference, if it may go on whenever it is woken. -/
private theorem settles_of_resumed (solitary : stage.Solitary index upkeep paused)
    (resumed : paused.wake.isOver Zone.now stage.zone = true → ∀ queue,
      ({ stage with queue := index :: queue } : Stage).Settles index answer)
    (rests : ({ stage with queue := [] } : Stage).Settles index answer ∨
      paused.wake.isOver Zone.now stage.zone = true ∧ index ∈ stage.queue) :
    stage.Settles index answer := by
  -- Along the queue, in which nobody but the task itself can go on.
  obtain ⟨queue, same⟩ : ∃ queue, stage.queue = queue := ⟨_, rfl⟩
  induction queue generalizing stage with
  | nil =>
    rcases rests with settles | ⟨_, queued⟩
    · rw [← same] at settles
      exact settles
    · rw [same] at queued
      cases queued
  | cons first later ih =>
    have called := solitary.queue later
    by_cases goes : first = index ∧ paused.wake.isOver Zone.now stage.zone = true
    · obtain ⟨rfl, woken⟩ := goes
      have settles := resumed woken later
      rw [← same] at settles
      exact settles
    · have still : ∀ turns, ({ stage with queue := later } : Stage).driveUpkeep first (turns + 2) =
          { stage with queue := later } := by
        intro turns
        by_cases itself : first = index
        · subst itself
          exact called.driveUpkeep_early (fun woken => goes ⟨rfl, woken⟩) _
        · exact driveUpkeep_over (called.others first itself) _
      refine .of_driven same still (ih called resumed (rests.imp_right fun ⟨woken, queued⟩ => ?_) rfl)
      rw [same] at queued
      exact ⟨woken, (List.mem_cons.mp queued).resolve_left fun itself => goes ⟨itself.symm, woken⟩⟩

/-- With an empty queue the stage goes on when the task is woken. -/
private theorem settles_of_woken (solitary : stage.Solitary index upkeep paused)
    (empty : stage.queue = []) {moment : Nat} (alarm : paused.wake.alarm = some moment)
    (releases : ∀ later : Stage, later.Solitary index upkeep paused →
      paused.wake.isOver Zone.now later.zone = true → later.Releases index answer) :
    stage.Settles index answer := by
  have served : ∀ tasks, stage.serve tasks = stage := by
    intro tasks
    cases tasks with
    | zero => rfl
    | succ tasks => rw [serve, empty]
  have waits : (waiting index).wake.isOver Zone.now stage.zone = false :=
    (waiting_isOver index _).trans solitary.isOver
  have due := (mem_due solitary.held).trans (Eq.congr_left (solitary.canGo_eq _))
  cases woken : paused.wake.isOver Zone.now stage.zone with
  | true =>
    obtain ⟨enough, answers⟩ := releases stage solitary woken
    refine ⟨enough, fun rounds tasks few _ => ?_⟩
    have somebody : stage.due.isEmpty = false :=
      List.isEmpty_eq_false_iff.mpr (List.ne_nil_of_mem (due.mpr woken))
    rw [served, goOn, waits, somebody, Bool.not_false, Bool.or_true, if_pos rfl]
    exact answers rounds few
  | false =>
    have reached : moment ≤ (stage.zone.passUntil moment).now := Nat.le_max_right _ _
    have inTime : paused.wake.isOver Zone.now (stage.zone.passUntil moment) = true := by
      simp [Wake.isOver, alarm, reached]
    obtain ⟨enough, answers⟩ := releases _ (solitary.passUntil moment) inTime
    refine ⟨enough, fun rounds tasks few _ => ?_⟩
    rw [served, goOn, waits, solitary.due_eq_nil (Bool.eq_false_iff.mp woken),
      solitary.nextMoment? alarm]
    exact answers rounds few

/-- Whoever waits for the end of the task gets his answer if it was asked to end: that it has
ended. -/
private theorem settles (solitary : stage.Solitary index upkeep paused)
    (dismissed : upkeep.dismissed = true) : stage.Settles index (.ok ()) := by
  induction paused using pauses_end generalizing stage with
  | step paused ih =>
    have resumed : ∀ stage : Stage, stage.Solitary index upkeep paused →
        paused.wake.isOver Zone.now stage.zone = true → ∀ queue,
          ({ stage with queue := index :: queue } : Stage).Settles index (.ok ()) := by
      intro stage solitary woken queue
      obtain ⟨after, driven, ends⟩ := (solitary.queue queue).driveUpkeep_woken dismissed woken
      refine .of_driven rfl driven ?_
      rcases ends with ⟨tame, held⟩ | ⟨rest, goes, onward⟩
      · exact settles_of_over tame held rfl
      · exact ih _ rest goes onward
    have releases : ∀ later : Stage, later.Solitary index upkeep paused →
        paused.wake.isOver Zone.now later.zone = true → later.Releases index (.ok ()) := by
      intro later alone woken
      have called := alone.queue later.callDue.queue
      refine Settles.releases (called.settles_of_resumed (resumed _ called) (.inr ⟨woken, ?_⟩))
        alone.isOver
      exact mem_called ((mem_due alone.held).mpr ((alone.canGo_eq _).trans woken))
    obtain ⟨_, _, ends, _⟩ := solitary.bides
    obtain ⟨moment, alarm⟩ := Option.isSome_iff_exists.mp ends
    refine solitary.settles_of_resumed (resumed stage solitary) (.inl ?_)
    exact (solitary.queue []).settles_of_woken rfl alarm releases

/-- Whoever waits for the end of a task that was asked for it gets his answer, also if the task is in
a turn, as long as nobody else is about: that it has ended. -/
theorem releases (solitary : stage.Solitary index upkeep paused)
    (dismissed : upkeep.dismissed = true) : stage.Releases index (.ok ()) :=
  Settles.releases ((solitary.queue stage.callDue.queue).settles dismissed) solitary.isOver

end Solitary

/-- So does whoever asks a task in a turn to end while nobody else is about. -/
theorem Solitary.answers {paused : Paused Zone Unit}
    (solitary : stage.Solitary index upkeep paused) (handle : stage.zone.handle = some index) :
    stage.Answers (.ok ()) := by
  obtain ⟨clock, gates⟩ := asking_rest index stage.zone
  have known := asking_held handle solitary.held
  have alone : (stage.asked index).Solitary index { upkeep with dismissed := true } paused :=
    solitary.keep known rfl rfl (fun other _ => asking_isOver index other stage.zone)
      (congrArg Clock.broken clock).trans gates
  exact (alone.settles rfl).answers handle ((asking_isOver index index _).trans solitary.isOver)

end Stage
end ClusterPool
