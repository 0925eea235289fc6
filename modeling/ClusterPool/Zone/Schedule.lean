import ClusterPool.Program
import ClusterPool.Zone.Maintain

/-! Work in one zone on virtual time, beside the background tasks of the zone. Whoever can go on
does so until it pauses: first the work that is waited for, and then the background tasks, in the
order in which they became able to. When nobody can, time jumps to the first moment at which
somebody will. -/
namespace ClusterPool
open Program

/-- A zone with what its background tasks are about to do. -/
structure Stage where
  zone : Zone
  /-- The turns under way, each with the number of its task. -/
  turns : List (Nat × Paused Zone Unit) := []
  /-- The tasks that can go on, first come first. -/
  queue : List Nat := []

namespace Stage

/-- A task that has the next turn before it, or in a turn has reached what `enough` says. -/
def canGo (enough : Wake Zone → Bool) (turns : List (Nat × Paused Zone Unit)) (zone : Zone)
    (index : Nat) : Bool :=
  match zone.upkeeps[index]? with
  | none => false
  | some upkeep =>
    match upkeep.phase with
    | .unborn => true
    | .idle => !(upkeep.turns zone.now).isEmpty
    | .busy => (turns.lookup index).any fun paused => enough paused.wake
    | .ended | .lost => false

/-- The tasks that a change of the zone lets go on join the queue. -/
def call (turns : List (Nat × Paused Zone Unit)) (zone : Zone) (queue : List Nat) : List Nat :=
  let called := canGo (fun wake => wake.ready zone) turns zone
  queue ++ (List.range zone.upkeeps.length).filter fun index =>
    called index && !queue.contains index

/-- The tasks that can go on by now. -/
def due (stage : Stage) : List Nat :=
  (List.range stage.zone.upkeeps.length).filter
    (canGo (fun wake => wake.isOver Zone.now stage.zone) stage.turns stage.zone)

/-- The tasks that can go on by now join the queue. -/
def callDue (stage : Stage) : Stage :=
  { stage with queue := stage.queue ++ stage.due.filter fun index => !stage.queue.contains index }

/-- Lets a piece of work go on until it pauses or is over. -/
def advance (work : Program Zone α) (stage : Stage) : Standing Zone α × Stage :=
  let (standing, zone, queue) := Program.advance (call stage.turns) work stage.zone stage.queue
  (standing, { stage with zone, queue })

/-- Notes how far a task has come with its turn, and tells whether the turn is over. -/
def settle (index : Nat) (standing : Standing Zone Unit) (stage : Stage) : Bool × Stage :=
  match standing with
  | .finished _ => (true, { stage with zone := stage.zone.endTurn index true })
  | .crashed => (false, { stage with zone := stage.zone.endTurn index false })
  | .paused rest => (false, { stage with turns := (index, rest) :: stage.turns })

/-- Goes on with a turn of a task, and tells whether the turn is over. -/
def doTurn (index : Nat) (work : Program Zone Unit) (stage : Stage) : Bool × Stage :=
  let (standing, stage) := stage.advance work
  settle index standing stage

/-- Brings a task forward by one turn, and tells whether it may take another one. -/
def moveUpkeep (index : Nat) (stage : Stage) : Bool × Stage :=
  match stage.zone.upkeeps[index]? with
  | none => (false, stage)
  | some upkeep =>
    match upkeep.phase with
    | .unborn => (true, { stage with zone := stage.zone.beginUpkeep index })
    | .ended | .lost => (false, stage)
    | .idle =>
      match upkeep.turns stage.zone.now with
      | [] => (false, stage)
      | turn :: _ =>
        match stage.zone.takeTurn index turn with
        | (none, zone) => (false, { stage with zone })
        | (some work, zone) => doTurn index work { stage with zone }
    | .busy =>
      match stage.turns.lookup index with
      | none => (false, stage)
      | some paused =>
        if paused.wake.isOver Zone.now stage.zone then
          doTurn index paused.next
            { stage with turns := stage.turns.filter fun entry => entry.1 != index }
        else (false, stage)

/-- Brings a task forward until it cannot go on, by at most so many turns. -/
def driveUpkeep (index : Nat) : Nat → Stage → Stage
  | 0, stage => stage
  | turns + 1, stage =>
    match moveUpkeep index stage with
    | (true, stage) => driveUpkeep index turns stage
    | (false, stage) => stage

/-- Brings the queued tasks forward one after the other, at most so many. -/
def serve : Nat → Stage → Stage
  | 0, stage => stage
  | tasks + 1, stage =>
    match stage.queue with
    | [] => stage
    | index :: queue => serve tasks (driveUpkeep index tasks { stage with queue })

/-- The first moment at which somebody goes on, with the work that is waited for. -/
def nextMoment? (front : Paused Zone α) (stage : Stage) : Option Nat :=
  let alarms := stage.turns.filterMap fun entry => entry.2.wake.alarm
  let idle := stage.zone.upkeeps.filterMap fun upkeep =>
    if upkeep.phase = .idle then some upkeep.wakesAt else none
  (front.wake.alarm.toList ++ alarms ++ idle).min?

/-- Goes on for at most so many rounds, until the work is over or nobody can ever go on. Without a
value the work has not come to its end. -/
def run : Nat → Paused Zone α → Stage → Option α × Stage
  | 0, _, stage => (none, stage)
  | rounds + 1, front, stage =>
    let stage := stage.callDue
    let (standing, stage) :=
      if front.wake.isOver Zone.now stage.zone then stage.advance front.next
      else (.paused front, stage)
    match standing with
    | .finished value => (some value, stage)
    | .crashed => (none, stage)
    | .paused front =>
      let stage := stage.serve rounds
      if front.wake.isOver Zone.now stage.zone || !stage.due.isEmpty then run rounds front stage
      else match stage.nextMoment? front with
        | none => (none, stage)
        | some moment =>
          run rounds front { stage with zone := stage.zone.passUntil moment }

/-- Rounds after which a piece of work is given up. Each round brings somebody forward, so that
only a background task with next to no interval comes near it. -/
def patience : Nat := 1000000000

/-- Does a piece of work. What the background tasks have not done by its end is left for later. -/
def play (work : Program Zone α) (stage : Stage) : Option α × Stage :=
  run patience ⟨{ alarm := some 0 }, work⟩ stage

end Stage
end ClusterPool
