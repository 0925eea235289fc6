/-! Pieces of work that several parties do on one state at the same time. A piece of work is a
chain of moments. Between two of them others may come in, and where it pauses they surely do; one
moment itself is never divided. Every piece of work is finite, whatever the others do to the
state. -/
namespace ClusterPool

/-- What ends a pause: the moment of an alarm, or a state that is ready. -/
structure Wake (σ : Type) where
  alarm : Option Nat := none
  ready : σ → Bool := fun _ => false

namespace Wake

/-- The pause is over, with `now` to tell the time. -/
def isOver (now : σ → Nat) (wake : Wake σ) (state : σ) : Bool :=
  wake.alarm.any (fun moment => moment ≤ now state) || wake.ready state

/-- Whatever ends one of two pauses. -/
def either (first second : Wake σ) : Wake σ where
  alarm := (first.alarm.toList ++ second.alarm.toList).min?
  ready state := first.ready state || second.ready state

end Wake

/-- A piece of work on a state `σ` that ends with an `α`. -/
inductive Program (σ α : Type) where
  | done (value : α)
  /-- The work is given up, and has no value. -/
  | crash
  /-- Changes the state at one moment. What comes next depends on the state before the change. -/
  | act (change : σ → σ) (next : σ → Program σ α)
  /-- Lets the others have their turn. What comes next begins when the pause is over. -/
  | pause (wake : Wake σ) (next : Program σ α)
  /-- A mark for onlookers, without effect of its own. -/
  | mark (next : Program σ α)

namespace Program

instance : Inhabited (Program σ α) := ⟨.crash⟩

/-- One piece of work after the other. -/
def bind : Program σ α → (α → Program σ β) → Program σ β
  | .done value, next => next value
  | .crash, _ => .crash
  | .act change rest, next => .act change fun state => (rest state).bind next
  | .pause wake rest, next => .pause wake (rest.bind next)
  | .mark rest, next => .mark (rest.bind next)

instance : Monad (Program σ) where
  pure := .done
  bind := bind

theorem bind_done (work : Program σ α) : work.bind .done = work := by
  induction work with
  | done | crash => rfl
  | act change next ih => exact congrArg (Program.act change) (funext ih)
  | pause wake next ih => exact congrArg (Program.pause wake) ih
  | mark next ih => exact congrArg Program.mark ih

theorem bind_assoc (work : Program σ α) (second : α → Program σ β) (third : β → Program σ γ) :
    (work.bind second).bind third = work.bind fun value => (second value).bind third := by
  induction work with
  | done | crash => rfl
  | act change next ih => exact congrArg (Program.act change) (funext ih)
  | pause wake next ih => exact congrArg (Program.pause wake) ih
  | mark next ih => exact congrArg Program.mark ih

instance : LawfulMonad (Program σ) := .mk' _ bind_done (fun _ _ => rfl) bind_assoc

/-- Looks at the state. -/
def get : Program σ σ := .act id .done

def modify (change : σ → σ) : Program σ Unit := .act change fun _ => .done ()

/-- Changes the state and answers, both at one moment. -/
def perform (action : σ → α × σ) : Program σ α :=
  .act (fun state => (action state).2) fun state => .done (action state).1

/-- Pauses until a moment. -/
def sleepUntil (moment : Nat) : Program σ Unit := .pause { alarm := some moment } (.done ())

/-- Lets the others have their turn, and goes on after them. -/
def stepAside : Program σ Unit := sleepUntil 0

/-- Pauses until the state is ready, if it is not ready yet. -/
def waitFor (ready : σ → Bool) : Program σ Unit :=
  .act id fun state => if ready state then .done () else .pause { ready } (.done ())

def marked : Program σ Unit := .mark (.done ())

/-- Work that ends with a change of the state, also when it is given up. -/
def ending (cleanup : σ → σ) : Program σ α → Program σ α
  | .done value => .act cleanup fun _ => .done value
  | .crash => .act cleanup fun _ => .crash
  | .act change next => .act change fun state => (next state).ending cleanup
  | .pause wake next => .pause wake (next.ending cleanup)
  | .mark next => .mark (next.ending cleanup)

/-- Does the given pieces of work one by one at the marks of another, as long as there are some.
They are done to their end before the other goes on. -/
def interject (insertions : List (Program σ ι)) (made : List ι) :
    Program σ α → Program σ (α × List ι)
  | .done value => .done (value, made.reverse)
  | .crash => .crash
  | .act change next => .act change fun state => (next state).interject insertions made
  | .pause wake next => .pause wake (next.interject insertions made)
  | .mark next =>
    match insertions with
    | [] => next.interject [] made
    | insertion :: later => insertion.bind fun value => next.interject later (value :: made)

/-- Does something for each element of a list. -/
def each (action : α → Program σ Unit) : List α → Program σ Unit
  | [] => .done ()
  | value :: rest => (action value).bind fun _ => each action rest

end Program
end ClusterPool

/-! How far a piece of work comes: up to its next pause while others are about, and to its end when
it is alone. -/

namespace ClusterPool.Program

/-- A piece of work that pauses. -/
structure Paused (σ α : Type) where
  wake : Wake σ
  next : Program σ α

/-- Where a piece of work stands when it cannot go on by itself. -/
inductive Standing (σ α : Type) where
  | finished (value : α)
  | crashed
  | paused (rest : Paused σ α)

instance : Inhabited (Standing σ α) := ⟨.crashed⟩

/-- Goes on until the work pauses or is over. After every change an onlooker notes what the state
now is. -/
def advance (note : σ → ω → ω) : Program σ α → σ → ω → Standing σ α × σ × ω
  | .done value, state, noted => (.finished value, state, noted)
  | .crash, state, noted => (.crashed, state, noted)
  | .act change next, state, noted =>
    (next state).advance note (change state) (note (change state) noted)
  | .pause wake next, state, noted => (.paused ⟨wake, next⟩, state, noted)
  | .mark next, state, noted => next.advance note state noted

/-- The whole work with nobody else about. `await` lets a moment come. Work that would wait for
ever has no value, nor has work that is given up. -/
def runAlone (await : Nat → σ → σ) : Program σ α → σ → Option α × σ
  | .done value, state => (some value, state)
  | .crash, state => (none, state)
  | .act change next, state => (next state).runAlone await (change state)
  | .pause wake next, state =>
    if wake.ready state then next.runAlone await state
    else match wake.alarm with
      | some moment => next.runAlone await (await moment state)
      | none => (none, state)
  | .mark next, state => next.runAlone await state

/-- What is done alone one after the other can be told apart. -/
theorem runAlone_bind (await : Nat → σ → σ) (first : Program σ α) (second : α → Program σ β)
    (state : σ) :
    (first.bind second).runAlone await state =
      match first.runAlone await state with
      | (some value, after) => (second value).runAlone await after
      | (none, after) => (none, after) := by
  induction first generalizing state with
  | done value => rfl
  | crash => rfl
  | act change next ih => exact ih state (change state)
  | pause wake next ih =>
    simp only [bind, runAlone]
    split
    · exact ih state
    · cases wake.alarm with
      | some moment => exact ih (await moment state)
      | none => rfl
  | mark next ih => exact ih state

/-! Two pieces of work that go on beside each other as one. What one of them does while the other
pauses comes between the moments of the other. Beside something that is already over, a piece of
work is what it is alone. -/

/-- What comes after a pause, once it is certain that the pause is over. -/
def after (now : σ → Nat) (wake : Wake σ) (next : Program σ α) : Program σ α :=
  .act id fun state => if wake.isOver now state then next else .pause wake next

/-- One piece of work goes on while another one pauses, which is resumed together with what is
left of the first. When a pause of both ends, the one that paused first is asked first. -/
def whilePaused (now : σ → Nat) (wake : Wake σ) (resume : Program σ α → Program σ β) :
    Program σ α → Program σ β
  | .done value => .pause wake (resume (.done value))
  | .crash => .crash
  | .act change next => .act change fun state => (next state).whilePaused now wake resume
  | .mark next => .mark (next.whilePaused now wake resume)
  | .pause other next =>
    .pause (wake.either other) <| .act id fun state =>
      if wake.isOver now state then resume (next.after now other)
      else next.whilePaused now wake resume

/-- Two pieces of work at the same time, as one party: in each of its turns the first goes on until
it pauses, and then the second. -/
def beside (now : σ → Nat) : Program σ α → Program σ β → Program σ (α × β)
  | .done value, second => second.bind fun other => .done (value, other)
  | .crash, _ => .crash
  | .act change next, second => .act change fun state => (next state).beside now second
  | .mark next, second => .mark (next.beside now second)
  | .pause wake next, second => second.whilePaused now wake (next.beside now)

theorem done_beside (now : σ → Nat) (value : α) (work : Program σ β) :
    (done value).beside now work = work.bind fun other => .done (value, other) := rfl

theorem beside_done (now : σ → Nat) (work : Program σ α) (value : β) :
    work.beside now (.done value) = work.bind fun other => .done (other, value) := by
  induction work with
  | done | crash => rfl
  | act change next ih => exact congrArg (Program.act change) (funext ih)
  | pause wake next ih => exact congrArg (Program.pause wake) ih
  | mark next ih => exact congrArg Program.mark ih

end ClusterPool.Program

/-! Turnstiles, at which parties wait until those who came before them have left. -/

namespace ClusterPool

/-- Admits one party after the other, in the order in which they came. `issued` counts those who
came and `served` those who left again. -/
structure Turnstile where
  issued : Nat := 0
  served : Nat := 0
  deriving DecidableEq, Inhabited

namespace Turnstile

/-- Nobody is inside. -/
def isFree (turnstile : Turnstile) : Bool := turnstile.issued == turnstile.served

def enter (turnstile : Turnstile) : Turnstile := { turnstile with issued := turnstile.issued + 1 }

def leave (turnstile : Turnstile) : Turnstile := { turnstile with served := turnstile.served + 1 }

end Turnstile

/-- A turnstile inside a state. -/
structure Gate (σ : Type) where
  get : σ → Turnstile
  update : (Turnstile → Turnstile) → σ → σ

namespace Gate

/-- Waits until everybody who came before has left. -/
def enter (gate : Gate σ) : Program σ Unit :=
  .act (gate.update Turnstile.enter) fun before =>
    .waitFor fun state => (gate.get state).served == (gate.get before).issued

def leave (gate : Gate σ) : σ → σ := gate.update Turnstile.leave

/-- Does work inside, and leaves afterwards in any case. -/
def inside (gate : Gate σ) (work : Program σ α) : Program σ α :=
  gate.enter.bind fun _ => work.ending gate.leave

end Gate
end ClusterPool
