import Mathlib.Logic.Basic
import ClusterPool.Proofs.Stage.Watching
import ClusterPool.Proofs.Zone.Endurance

/-! How a background task comes to its end. A task that can tell both of its intervals gets past its
first turn, and is then lost in no way but by a turn that is given up, which does not happen while
the clock can be read. What else may go on beside the task does not matter to that. Where nobody else
comes to the gates, the task is not kept waiting there either. -/
namespace ClusterPool
open Program

namespace Timesheet

/-- What a watcher can rely on of a task whose intervals could be told when it was begun: it is lost
nowhere but in a turn. -/
structure Viable (start : Nat) (sheet : Timesheet) : Prop where
  tells : sheet.upkeep.tells start = true
  unborn : sheet.upkeep.phase = .unborn → sheet.now = start
  lost : sheet.upkeep.phase = .lost → sheet.shifts ≠ []

namespace Viable
variable {start : Nat} {sheet after : Timesheet}

/-- The first turn brings such a task into its loop. -/
theorem begins (viable : sheet.Viable start) (unborn : sheet.upkeep.phase = .unborn) :
    (sheet.upkeep.begin sheet.now).phase = .idle := by
  rw [Upkeep.begin_phase, viable.unborn unborn, if_pos viable.tells]

theorem step (viable : sheet.Viable start) (step : Step sheet after) : after.Viable start := by
  have tells := (step.tells start).trans viable.tells
  cases step with
  | still => exact viable
  | dismiss => exact ⟨tells, viable.unborn, viable.lost⟩
  | begin unborn =>
    have phase := viable.begins unborn
    exact ⟨tells, by rw [phase]; nofun, by rw [phase]; nofun⟩
  | stop => exact ⟨tells, nofun, nofun⟩
  | work _ _ _ leaves => exact ⟨tells, by cases leaves <;> nofun, fun _ => nofun⟩
  | resume _ _ leaves => exact ⟨tells, by cases leaves <;> nofun, fun _ => nofun⟩
  | wait _ born => exact ⟨tells, fun unborn => absurd unborn born, viable.lost⟩

end Viable
end Timesheet

section
variable {prospect : Prospect Zone Zone.Tickets} (lenient : Zone.Lenient prospect)
include lenient

/-- A turn that endures what it finds comes to its end, or to a pause that it has to expect. -/
theorem Stage.doTurn_endures {index : Nat} {work : Program Zone Unit} {stage after : Stage}
    {completed : Bool} {tickets : Zone.Tickets} (within : work.Within Zone.Aloof)
    (endures : work.Endures prospect tickets {}) (found : prospect.finds tickets stage.zone)
    (did : doTurn index work stage = (completed, after)) :
    (completed = true ∧ after.turns = stage.turns ∧ prospect.finds {} after.zone ∧
      after.zone.upkeeps = stage.zone.upkeeps.modify index fun upkeep =>
        { upkeep with phase := .idle }) ∨
    (∃ rest held, completed = false ∧ after.turns = (index, rest) :: stage.turns ∧
      prospect.finds held after.zone ∧ prospect.ends rest.wake held ∧
      rest.next.Endures prospect held {} ∧ (work.stretch stage.zone).1 = .paused rest ∧
      after.zone.upkeeps = stage.zone.upkeeps) := by
  obtain ⟨aloof, _⟩ := within.advance .refl .trans (call stage.turns) stage.zone stage.queue
  have stands := endures.stretch found
  rw [advance_stretch] at stands ⊢
  unfold doTurn at did
  unfold Stage.advance at did stands ⊢
  generalize Program.advance (call stage.turns) work stage.zone stage.queue = result
    at aloof stands did ⊢
  obtain ⟨standing, zone, queue⟩ := result
  cases standing with
  | finished value =>
    obtain ⟨rfl, rfl⟩ := Prod.mk.inj did
    have finds : prospect.finds {} zone := stands
    have readable : zone.Readable := lenient.readable finds
    refine .inl ⟨rfl, rfl, lenient.still finds readable rfl rfl, ?_⟩
    rw [← aloof.upkeeps]
    rfl
  | crashed => exact stands.elim
  | paused rest =>
    obtain ⟨rfl, rfl⟩ := Prod.mk.inj did
    obtain ⟨held, finds, ends, onward⟩ := stands
    exact .inr ⟨rest, held, rfl, rfl, finds, ends, onward, rfl, aloof.upkeeps⟩

end

namespace Watch

variable {index : Nat} {watch after : Watch}

/-- A move at a moment at which the clock can be read. -/
def Sober (index : Nat) (before after : Watch) : Prop :=
  Move index before after ∧ before.stage.zone.Readable

/-- Such a move in which nobody comes to a gate, but for the task in its turns. -/
structure Undisturbed (index : Nat) (before after : Watch) : Prop where
  sober : Sober index before after
  still : after.stints = before.stints →
    after.stage.zone.reloading = before.stage.zone.reloading ∧
      after.stage.zone.bookkeeping = before.stage.zone.bookkeeping

/-- A move that changes nothing, out of its turns, about what the task has to expect. -/
structure Heeds (prospect : Prospect Zone Zone.Tickets) (index : Nat) (before after : Watch) :
    Prop where
  sober : Sober index before after
  still : after.stints = before.stints → ∀ tickets, prospect.finds tickets before.stage.zone →
    after.stage.zone.Readable → prospect.finds tickets after.stage.zone

theorem Sober.heeds (sober : Sober index watch after) : Heeds Zone.amidOthers index watch after :=
  ⟨sober, fun _ _ _ readable => readable⟩

theorem Undisturbed.heeds (move : Undisturbed index watch after) :
    Heeds Zone.undisturbed index watch after := by
  refine ⟨move.sober, fun same tickets found readable => ?_⟩
  obtain ⟨reloading, bookkeeping⟩ := move.still same
  exact Zone.undisturbed_lenient.still found readable reloading bookkeeping

section
variable {prospect : Prospect Zone Zone.Tickets}

theorem moves_of_heeds (leads : Relation.ReflTransGen (Heeds prospect index) watch after) :
    Relation.ReflTransGen (Move index) watch after :=
  Relation.ReflTransGen.mono (fun _ _ heeds => heeds.sober.1) _ _ leads

theorem heeds_of_sober (leads : Relation.ReflTransGen (Sober index) watch after) :
    Relation.ReflTransGen (Heeds Zone.amidOthers index) watch after :=
  Relation.ReflTransGen.mono (fun _ _ sober => sober.heeds) _ _ leads

theorem heeds_of_undisturbed (leads : Relation.ReflTransGen (Undisturbed index) watch after) :
    Relation.ReflTransGen (Heeds Zone.undisturbed index) watch after :=
  Relation.ReflTransGen.mono (fun _ _ move => move.heeds) _ _ leads

end

/-- The task is not lost, and neither will it be in the rest of its turn, nor is it kept waiting there
for anything but what it has to expect. -/
structure Fares (prospect : Prospect Zone Zone.Tickets) (index : Nat) (watch : Watch) : Prop where
  kept : (watch.sheet index).upkeep.phase ≠ .lost
  rests : (watch.sheet index).upkeep.phase ≠ .busy → watch.stage.zone.Readable →
    prospect.finds {} watch.stage.zone
  turn : (watch.sheet index).upkeep.phase = .busy → ∀ paused,
    watch.stage.turns.lookup index = some paused →
      ∃ tickets, (watch.stage.zone.Readable → prospect.finds tickets watch.stage.zone) ∧
        prospect.ends paused.wake tickets ∧ paused.next.Endures prospect tickets {}

variable {prospect : Prospect Zone Zone.Tickets}

private theorem Fares.of_upkeep {upkeep : Upkeep}
    (held : after.stage.zone.upkeeps[index]? = some upkeep) (kept : upkeep.phase ≠ .lost)
    (rests : upkeep.phase ≠ .busy → after.stage.zone.Readable → prospect.finds {} after.stage.zone)
    (turn : upkeep.phase = .busy → ∀ paused, after.stage.turns.lookup index = some paused →
      ∃ tickets, (after.stage.zone.Readable → prospect.finds tickets after.stage.zone) ∧
        prospect.ends paused.wake tickets ∧ paused.next.Endures prospect tickets {}) :
    after.Fares prospect index := by
  constructor <;> rw [sheet_eq held]
  · exact kept
  · exact rests
  · exact turn

section
variable (lenient : Zone.Lenient prospect)
include lenient

/-- A task that went on with its turn is not lost in it. -/
private theorem Fares.of_turn {stage : Stage} {work : Program Zone Unit} {completed : Bool}
    {tickets : Zone.Tickets} {upkeep : Upkeep} (within : work.Within Zone.Aloof)
    (endures : work.Endures prospect tickets {}) (found : prospect.finds tickets stage.zone)
    (did : Stage.doTurn index work stage = (completed, after.stage))
    (held : stage.zone.upkeeps[index]? = some upkeep) (busy : upkeep.phase = .busy) :
    after.Fares prospect index := by
  rcases Stage.doTurn_endures lenient within endures found did with
    ⟨_, _, finds, upkeeps⟩ | ⟨rest, tickets, _, turns, finds, ends, onward, _, upkeeps⟩
  · exact .of_upkeep (Zone.held_modify held upkeeps) nofun (fun _ _ => finds) nofun
  · refine .of_upkeep (upkeeps ▸ held) (by rw [busy]; nofun) (fun rests => absurd busy rests)
      fun _ paused same => ?_
    rw [turns, List.lookup_cons_self] at same
    cases same
    exact ⟨tickets, fun _ => finds, ends, onward⟩

theorem Fares.move {start : Nat} (fares : watch.Fares prospect index) (sound : watch.Sound index)
    (viable : (watch.sheet index).Viable start) (heeds : Heeds prospect index watch after) :
    after.Fares prospect index := by
  obtain ⟨upkeep, held⟩ := sound.held
  have known := sheet_eq held
  obtain ⟨kept, rests, turn⟩ := fares
  have inTurn := sound.turn
  obtain ⟨⟨move, readable⟩, still⟩ := heeds
  rw [known] at kept rests turn viable inTurn
  -- Out of its turns the task expects afterwards what it had to expect before.
  have stays : after.stints = watch.stints →
      (upkeep.phase ≠ .busy → after.stage.zone.Readable → prospect.finds {} after.stage.zone) ∧
      (upkeep.phase = .busy → after.stage.turns.lookup index = watch.stage.turns.lookup index →
        ∀ paused, after.stage.turns.lookup index = some paused →
          ∃ tickets, (after.stage.zone.Readable → prospect.finds tickets after.stage.zone) ∧
            prospect.ends paused.wake tickets ∧ paused.next.Endures prospect tickets {}) := by
    intro same
    refine ⟨fun away => still same {} (rests away readable), fun busy still' paused found => ?_⟩
    obtain ⟨tickets, finds, ends, onward⟩ := turn busy paused (still' ▸ found)
    exact ⟨tickets, still same tickets (finds readable), ends, onward⟩
  cases move with
  | others spares same =>
    obtain ⟨latter, now, phase⟩ := spares.phase held
    obtain ⟨away, busy⟩ := stays rfl
    rw [← phase] at kept away busy
    exact .of_upkeep now kept away fun inTurn => busy inTurn same
  | begins unborn =>
    rw [known] at unborn
    have away : upkeep.phase ≠ .busy := Eq.trans_ne unborn nofun
    have idle := viable.begins unborn
    exact .of_upkeep (Zone.beginUpkeep_held held) (by rw [idle]; nofun)
      (fun _ => (stays rfl).1 away) (by rw [idle]; nofun)
  | stops idle due =>
    rw [known] at idle
    have away : upkeep.phase ≠ .busy := Eq.trans_ne idle nofun
    exact .of_upkeep (Zone.held_modify held rfl) nofun (fun _ => (stays rfl).1 away) nofun
  | works idle due taken did =>
    rw [known] at idle
    have away : upkeep.phase ≠ .busy := Eq.trans_ne idle nofun
    obtain ⟨works, rfl, rfl⟩ := Zone.takeTurn_works taken
    have busy : (upkeep.take watch.stage.zone.now _).phase = .busy := Upkeep.take_phase works
    have found : prospect.finds {} watch.stage.zone := rests away readable
    refine .of_turn lenient (Zone.turnWork_aloof _) (Zone.turnWork_endures lenient _) ?_ did
      (Zone.held_modify held rfl) busy
    exact lenient.still found readable rfl rfl
  | resumes busy latest rest woken did =>
    rw [known] at busy
    obtain ⟨_, _, _, _, found, within, _⟩ := inTurn busy
    cases rest.symm.trans found
    obtain ⟨tickets, finds, _, onward⟩ := turn busy _ rest
    refine .of_turn lenient within onward ?_ did held busy
    exact finds readable
  | waits =>
    obtain ⟨away, busy⟩ := stays rfl
    exact .of_upkeep held kept away fun inTurn => busy inTurn rfl

end

section
variable {stage : Stage} (usable : stage.zone.newUpkeep.isUsable = true)
  (tells : stage.zone.newUpkeep.tells stage.zone.now = true)
include usable tells

theorem spawn_viable
    (leads : Relation.ReflTransGen (Move stage.zone.upkeeps.length) (spawn stage) watch) :
    (watch.sheet stage.zone.upkeeps.length).Viable stage.zone.now :=
  spawn_invariant usable ⟨tells, fun _ => rfl, nofun⟩
    (fun _ _ _ step viable => viable.step step) leads

/-- A task that finds nothing but what it has to expect fares well. -/
theorem spawn_fares (lenient : Zone.Lenient prospect)
    (free : stage.zone.Readable → prospect.finds {} stage.zone)
    (leads : Relation.ReflTransGen (Heeds prospect stage.zone.upkeeps.length) (spawn stage) watch) :
    watch.Fares prospect stage.zone.upkeeps.length := by
  induction leads with
  | refl =>
    have sheet := spawn_sheet usable
    refine ⟨by rw [sheet]; nofun, fun _ => ?_, by rw [sheet]; nofun⟩
    rw [spawn, addUpkeep_eq usable]
    exact fun readable => lenient.still (free readable) readable rfl rfl
  | tail before heeds ih =>
    have moves := moves_of_heeds before
    exact ih.move lenient (spawn_sound usable moves).1 (spawn_viable usable tells moves) heeds

end

end Watch
end ClusterPool
