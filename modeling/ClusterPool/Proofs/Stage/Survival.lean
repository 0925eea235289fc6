import ClusterPool.Proofs.Stage.Concluding

/-! Which background tasks last. Whether a task is begun depends on whether its intervals take some
time, and whether it gets beyond its first turn on whether its clock can tell when they end. A task
that gets so far lasts until it is asked to end, and then comes to its end. Whoever asks for that
waits for the turn the task is in. Others may keep the task waiting in its turn, but if there are
none, the turn ends. -/
namespace ClusterPool
open Program

/-- No task but this one is in a turn, or will ever be. -/
structure Stage.Sole (index : Nat) (stage : Stage) : Prop where
  turns : stage.turns.length ≤ 1
  others : ∀ other, other ≠ index → stage.zone.isOver other = true

namespace Watch

variable {index : Nat} {watch : Watch}

/-- Whoever asks the task to end, and whoever waits for that after it was asked, gets his answer: that
it has ended. -/
structure Concludes (index : Nat) (watch : Watch) : Prop where
  answers : watch.stage.zone.handle = some index → watch.stage.Answers (.ok ())
  releases : (watch.sheet index).upkeep.dismissed = true → watch.stage.Releases index (.ok ())

/-- The first turn brings the task into its loop. It is over only once it was asked to end, and has
not been lost then, which is what those learn who asked for it. Nobody has to wait for it but for the
rest of a turn. -/
structure Lasts (index : Nat) (watch : Watch) : Prop where
  begins : (watch.sheet index).upkeep.phase = .unborn →
    ((watch.sheet index).upkeep.begin watch.stage.zone.now).phase = .idle
  stays : watch.stage.zone.isOver index = true → watch.asked.isSome = true
  ending : watch.stage.zone.ending index = .ok ()
  concludes : (watch.sheet index).upkeep.phase ≠ .busy → watch.stage.Tame → watch.Concludes index

/-- The task is lost in its first turn, takes no other, and those learn so who ask it to end. -/
structure Perishes (index : Nat) (watch : Watch) : Prop where
  begins : (watch.sheet index).upkeep.phase = .unborn →
    ((watch.sheet index).upkeep.begin watch.stage.zone.now).phase = .lost
  phase : (watch.sheet index).upkeep.phase = .unborn ∨ (watch.sheet index).upkeep.phase = .lost
  shifts : watch.shifts = []
  answers : watch.stage.Tame → watch.stage.zone.handle = some index →
    watch.stage.Answers (.error .taskLost)

/-- The latest turn of the task was taken up and has not come to its end. -/
def GaveUp (watch : Watch) : Prop :=
  ∃ shift earlier, watch.shifts = shift :: earlier ∧ shift.ended = none

section
variable {start : Nat} {sheet : Timesheet}

/-- A task that can tell its intervals comes to its end if it is asked to. -/
private theorem lastPhase_of_viable (viable : sheet.Viable start)
    (kept : sheet.upkeep.phase ≠ .lost) : sheet.upkeep.lastPhase sheet.now = .ended := by
  unfold Upkeep.lastPhase
  cases phase : sheet.upkeep.phase with
  | lost => exact absurd phase kept
  | unborn => rw [viable.unborn phase, if_pos viable.tells]
  | idle | busy | ended => rfl

private theorem tells_of_forlorn (forlorn : sheet.Forlorn start)
    (unborn : sheet.upkeep.phase = .unborn) :
    sheet.upkeep.tells sheet.now = false := by
  rcases forlorn.phase with ⟨_, now⟩ | lost
  · rw [now]
    exact forlorn.tells
  · rw [lost] at unborn
    cases unborn

/-- A task that cannot tell its intervals is lost whatever it is asked. -/
private theorem lastPhase_of_forlorn (forlorn : sheet.Forlorn start) :
    sheet.upkeep.lastPhase sheet.now = .lost := by
  unfold Upkeep.lastPhase
  rcases forlorn.phase with ⟨unborn, _⟩ | lost
  · rw [unborn]
    dsimp only
    rw [if_neg (Bool.eq_false_iff.mp (tells_of_forlorn forlorn unborn))]
  · rw [lost]

end

private theorem gaveUp_of_lost {start : Nat} (coherent : (watch.sheet index).Coherent)
    (viable : (watch.sheet index).Viable start)
    (lost : (watch.sheet index).upkeep.phase = .lost) : watch.GaveUp := by
  obtain ⟨shift, earlier, all⟩ := List.exists_cons_of_ne_nil (viable.lost lost)
  exact ⟨shift, earlier, all, (coherent.latest shift earlier all).mpr (.inr lost)⟩

private theorem lasts_of_fares {start : Nat} {prospect : Prospect Zone Zone.Tickets}
    (sound : watch.Sound index) (coherent : (watch.sheet index).Coherent)
    (viable : (watch.sheet index).Viable start) (fares : watch.Fares prospect index) :
    watch.Lasts index := by
  obtain ⟨upkeep, held⟩ := sound.held
  have known := sheet_eq held
  have kept := fares.kept
  have last := lastPhase_of_viable viable kept
  have asked := coherent.asked
  have ended := coherent.ended
  rw [known] at kept last asked ended
  refine ⟨viable.begins, fun isOver => ?_, ?_, fun rests tame => ?_⟩
  · rw [Zone.isOver_eq held] at isOver
    exact asked.trans (ended ((Upkeep.isOver_iff.mp isOver).resolve_right kept))
  · rw [Zone.ending_eq held, if_neg kept]
  · rw [known] at rests
    refine ⟨fun handle => ?_, fun dismissed => ?_⟩
    · have answers := Stage.answers tame held handle rests
      rw [last] at answers
      exact answers
    · rw [known] at dismissed
      have releases := Stage.releases tame held dismissed rests
      rw [last] at releases
      exact releases

/-- A turn in which the task fares well comes to its end, and the task with it, if nobody else is
about. -/
private theorem concludes_of_sole (sound : watch.Sound index)
    (fares : watch.Fares Zone.undisturbed index) (readable : watch.stage.zone.Readable)
    (busy : (watch.sheet index).upkeep.phase = .busy) (sole : watch.stage.Sole index) :
    watch.Concludes index := by
  obtain ⟨upkeep, held⟩ := sound.held
  obtain ⟨_, _, paused, _, found, within, _⟩ := sound.turn busy
  obtain ⟨tickets, finds, bides⟩ := fares.turn busy paused found
  have turns : watch.stage.turns = [(index, paused)] := by
    obtain ⟨before, after, all, _⟩ := List.lookup_eq_some_iff.mp found
    have few := sole.turns
    rw [all, List.length_append, List.length_cons] at few
    rw [all, List.length_eq_zero_iff.mp (show before.length = 0 by omega),
      List.length_eq_zero_iff.mp (show after.length = 0 by omega), List.nil_append]
  rw [sheet_eq held] at busy
  have solitary : watch.stage.Solitary index upkeep paused :=
    ⟨held, busy, turns, sole.others, within, tickets, finds readable, bides⟩
  refine ⟨solitary.answers, fun dismissed => ?_⟩
  rw [sheet_eq held] at dismissed
  exact solitary.releases dismissed

private theorem perishes_of_forlorn {start : Nat} (sound : watch.Sound index)
    (forlorn : (watch.sheet index).Forlorn start) : watch.Perishes index := by
  have last := lastPhase_of_forlorn forlorn
  have phase : (watch.sheet index).upkeep.phase = .unborn ∨
      (watch.sheet index).upkeep.phase = .lost := forlorn.phase.imp_left And.left
  refine ⟨fun unborn => ?_, phase, forlorn.shifts, fun tame handle => ?_⟩
  · have lost : ¬(watch.sheet index).upkeep.tells watch.stage.zone.now = true :=
      Bool.eq_false_iff.mp (tells_of_forlorn forlorn unborn)
    rw [Upkeep.begin_phase, if_neg lost]
  · obtain ⟨upkeep, held⟩ := sound.held
    rw [sheet_eq held] at last phase
    have rests : upkeep.phase ≠ .busy := by
      rcases phase with unborn | lost
      · exact Eq.trans_ne unborn nofun
      · exact Eq.trans_ne lost nofun
    have answers := Stage.answers tame held handle rests
    rw [last] at answers
    exact answers

theorem addUpkeep_ok_iff {zone : Zone} : zone.addUpkeep.1 = .ok zone.upkeeps.length ↔
    zone.settings.reloadEvery.isZero = false ∧ zone.settings.reclaimEvery.isZero = false := by
  unfold Zone.addUpkeep Upkeep.isUsable Zone.newUpkeep
  cases zone.settings.reloadEvery.isZero <;> cases zone.settings.reclaimEvery.isZero <;> simp

/-- Which tasks last. A task is begun exactly if both of its intervals take some time, and whoever
asks it to end waits until it is over, and learns how it has ended. As long as its clock can tell the
ends of both intervals, it is lost nowhere but in a turn that is given up, and not there either while
the clock can be read: it lasts until it is asked to end, and then ends, after the turn it is in, if
any. That turn comes to its end where nobody else comes to the gates or takes a turn. If the clock
could not tell them when the task began, the task is lost at once. -/
theorem lasts_or_perishes (stage : Stage) :
    let index := stage.zone.upkeeps.length
    let upkeep := stage.zone.newUpkeep
    (stage.zone.addUpkeep.1 = .ok index ↔ stage.zone.settings.reloadEvery.isZero = false ∧
      stage.zone.settings.reclaimEvery.isZero = false) ∧
    (∀ zone, zone.handle = some index → Zone.shutdown.EndsOnly Zone.now (fun answer after =>
      after.isOver index = true ∧ answer = some (after.ending index)) zone) ∧
    (stage.zone.addUpkeep.1 = .ok index →
      (∀ watch, Relation.ReflTransGen (Move index) (spawn stage) watch →
        upkeep.tells watch.stage.zone.now = true →
          (watch.sheet index).upkeep.phase = .lost → watch.GaveUp) ∧
      (∀ watch, Relation.ReflTransGen (Sober index) (spawn stage) watch →
        upkeep.tells watch.stage.zone.now = true → watch.Lasts index) ∧
      (stage.zone.reloading.isFree = true ∧ stage.zone.bookkeeping.isFree = true →
        ∀ watch, Relation.ReflTransGen (Undisturbed index) (spawn stage) watch →
          upkeep.tells watch.stage.zone.now = true → watch.stage.zone.Readable →
            (watch.sheet index).upkeep.phase = .busy → watch.stage.Sole index →
              watch.Concludes index) ∧
      (upkeep.tells stage.zone.now = false →
        ∀ watch, Relation.ReflTransGen (Move index) (spawn stage) watch → watch.Perishes index)) := by
  intro index upkeep
  refine ⟨addUpkeep_ok_iff, fun zone handle => Zone.shutdown_answers handle, fun begun => ?_⟩
  have usable : upkeep.isUsable = true := by
    obtain ⟨reloads, reclaims⟩ := addUpkeep_ok_iff.mp begun
    change (!stage.zone.settings.reloadEvery.isZero && !stage.zone.settings.reclaimEvery.isZero) =
      true
    rw [reloads, reclaims]
    rfl
  refine ⟨fun watch leads tells lost => ?_, fun watch leads tells => ?_,
    fun free watch leads tells readable busy sole => ?_, fun tells watch leads => ?_⟩
  · have told := Upkeep.tells_mono (spawn_now_le usable leads) tells
    exact gaveUp_of_lost (spawn_sound usable leads).2 (spawn_viable usable told leads) lost
  · have heeds := heeds_of_sober leads
    have moves := moves_of_heeds heeds
    have told := Upkeep.tells_mono (spawn_now_le usable moves) tells
    obtain ⟨sound, coherent⟩ := spawn_sound usable moves
    exact lasts_of_fares sound coherent (spawn_viable usable told moves)
      (spawn_fares usable told Zone.amidOthers_lenient id heeds)
  · have heeds := heeds_of_undisturbed leads
    have moves := moves_of_heeds heeds
    have told := Upkeep.tells_mono (spawn_now_le usable moves) tells
    have fits : ({} : Zone.Tickets).Fit stage.zone :=
      ⟨beq_iff_eq.mp free.1, beq_iff_eq.mp free.2⟩
    have fares := spawn_fares usable told Zone.undisturbed_lenient
      (fun readable => ⟨readable, fits⟩) heeds
    exact concludes_of_sole (spawn_sound usable moves).1 fares readable busy sole
  · exact perishes_of_forlorn (spawn_sound usable leads).1 (spawn_forlorn usable leads tells)

/-- A stage that reloads every millisecond, and whose other interval takes as many milliseconds as can
be written. Its catalog announces a cluster whose producer takes some time to start. -/
def patient : Stage where
  zone := { (default : Zone) with
    settings := { reloadEvery := .ofMillis 1, reclaimEvery := .ofMillis 18446744073709551615 }
    catalog := .inMemory [{ name := "a" }] .empty
    fleet := { startDelay := 5 } }

/-- Whoever asks the task of this stage to end while it is in its first turn gets his answer once the
producer has started. -/
theorem lasts_or_perishes_of_patient :
    ∃ watch, Relation.ReflTransGen (Undisturbed 0) (spawn patient) watch ∧
    watch.shifts = [⟨.reload, 1, none⟩] ∧ watch.stage.zone.isOver 0 = false ∧
    watch.stage.Answers (.ok ()) := by
  have leads : Relation.ReflTransGen (Undisturbed 0) (spawn patient) (spawn patient) := .refl
  have handed := @Move.others 0 (spawn patient)
    { patient with zone := { patient.zone.addUpkeep.2 with handle := some 0 } }
    ⟨rfl, fun _ held => .inl held⟩ rfl
  have leads := leads.tail ⟨⟨handed, rfl⟩, fun _ => ⟨rfl, rfl⟩⟩
  have leads := leads.tail ⟨⟨.begins (by decide), rfl⟩, fun _ => ⟨rfl, rfl⟩⟩
  have leads := leads.tail ⟨⟨.waits 1 (by decide) (by decide), rfl⟩, fun _ => ⟨rfl, rfl⟩⟩
  have leads := leads.tail ⟨⟨.worked .reload nofun (by decide) (by decide), rfl⟩,
    fun same => absurd same (List.cons_ne_self _ _)⟩
  have concludes := ((lasts_or_perishes patient).2.2 rfl).2.2.1 ⟨rfl, rfl⟩ _ leads
  refine ⟨_, leads, by decide +kernel, by decide +kernel,
    Concludes.answers (concludes (by decide +kernel) ?_ (by decide +kernel) ⟨?_, ?_⟩) ?_⟩
  · show _ = false
    decide +kernel
  · decide +kernel
  · exact fun other differs => Zone.isOver_of_length_le (by
      refine Nat.le_trans ?_ (Nat.one_le_iff_ne_zero.mpr differs)
      decide +kernel)
  · decide +kernel

/-- With an interval that no clock can tell, a task is over before anybody has asked it to end. -/
theorem distant_perishes : ¬∀ stage : Stage,
    let index := stage.zone.upkeeps.length
    stage.zone.addUpkeep.1 = .ok index →
      ∀ watch, Relation.ReflTransGen (Sober index) (spawn stage) watch → watch.Lasts index := by
  intro always
  have leads : Relation.ReflTransGen (Sober 0) (spawn distant) (spawn distant) := .refl
  have leads := leads.tail ⟨.begins (by decide), rfl⟩
  have asked := (always distant rfl _ leads).stays (by decide)
  exact absurd asked (by decide)

end Watch
end ClusterPool
