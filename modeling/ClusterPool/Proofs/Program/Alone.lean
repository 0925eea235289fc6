import ClusterPool.Program

/-! What a piece of work attains with nobody else about: that it comes to its end, and what then
holds of its value and of the state. Each way to compose work has its rule, so that a statement on
a long piece of work follows from the statements on its parts. -/
namespace ClusterPool.Program

/-- Alone, the work comes to its end, and `goal` holds of its value and of the state it leaves. -/
def Attains (await : Nat → σ → σ) (goal : α → σ → Prop) (work : Program σ α) (state : σ) : Prop :=
  ∃ value after, work.runAlone await state = (some value, after) ∧ goal value after

variable {await : Nat → σ → σ} {goal : α → σ → Prop} {state : σ}

@[simp] theorem pure_eq_done (value : α) : (pure value : Program σ α) = done value := rfl

@[simp] theorem bind_eq_bind (work : Program σ α) (next : α → Program σ β) :
    (work >>= next) = work.bind next := rfl

@[simp] theorem attains_done {value : α} :
    (done value).Attains await goal state ↔ goal value state := by
  constructor
  · rintro ⟨_, _, ran, holds⟩
    cases ran
    exact holds
  · intro holds
    exact ⟨value, state, rfl, holds⟩

@[simp] theorem attains_act {change : σ → σ} {next : σ → Program σ α} :
    (act change next).Attains await goal state ↔
      (next state).Attains await goal (change state) := Iff.rfl

@[simp] theorem attains_mark {next : Program σ α} :
    (mark next).Attains await goal state ↔ next.Attains await goal state := Iff.rfl

/-- Work that pauses until a moment goes on when the moment has come. -/
@[simp] theorem attains_sleepUntil {moment : Nat} {goal : Unit → σ → Prop} :
    (sleepUntil moment).Attains await goal state ↔ goal () (await moment state) := by
  change (done ()).Attains await goal (await moment state) ↔ _
  exact attains_done

/-- One piece of work after the other: the second starts from what the first attains. -/
@[simp] theorem attains_bind {work : Program σ α} {next : α → Program σ β} {goal : β → σ → Prop} :
    (work.bind next).Attains await goal state ↔
      work.Attains await (fun value after => (next value).Attains await goal after) state := by
  constructor
  · rintro ⟨value, after, ran, holds⟩
    rw [runAlone_bind] at ran
    cases first : work.runAlone await state with
    | mk ended middle =>
      cases ended with
      | none => simp [first] at ran
      | some between =>
        exact ⟨between, middle, first, value, after, by simpa [first] using ran, holds⟩
  · rintro ⟨between, middle, first, value, after, ran, holds⟩
    exact ⟨value, after, by rw [runAlone_bind, first]; exact ran, holds⟩

theorem Attains.mono {weaker : α → σ → Prop} {work : Program σ α}
    (attains : work.Attains await goal state)
    (implies : ∀ value after, goal value after → weaker value after) :
    work.Attains await weaker state := by
  obtain ⟨value, after, ran, holds⟩ := attains
  exact ⟨value, after, ran, implies value after holds⟩

/-- What work attains holds of the outcome it was seen to have. -/
theorem Attains.of_ran {work : Program σ α} (attains : work.Attains await goal state) {value : α}
    {after : σ} (ran : work.runAlone await state = (some value, after)) : goal value after := by
  obtain ⟨_, _, again, holds⟩ := attains
  rw [ran] at again
  cases again
  exact holds

theorem Attains.and {other : α → σ → Prop} {work : Program σ α}
    (first : work.Attains await goal state) (second : work.Attains await other state) :
    work.Attains await (fun value after => goal value after ∧ other value after) state := by
  obtain ⟨value, after, ran, holds⟩ := first
  exact ⟨value, after, ran, holds, second.of_ran ran⟩

@[simp] theorem attains_get {goal : σ → σ → Prop} :
    (get : Program σ σ).Attains await goal state ↔ goal state state := by simp [get]

@[simp] theorem attains_modify {change : σ → σ} {goal : Unit → σ → Prop} :
    (modify change).Attains await goal state ↔ goal () (change state) := by simp [modify]

@[simp] theorem attains_perform {action : σ → α × σ} :
    (perform action).Attains await goal state ↔ goal (action state).1 (action state).2 := by
  simp [perform]

/-- A state that is ready is not waited for. -/
theorem attains_waitFor {ready : σ → Bool} {goal : Unit → σ → Prop} (isReady : ready state = true) :
    (waitFor ready).Attains await goal state ↔ goal () state := by
  simp [waitFor, isReady]

/-- Work with a change at its end attains what the change makes of its own outcome. -/
theorem attains_ending {cleanup : σ → σ} {work : Program σ α} :
    (work.ending cleanup).Attains await goal state ↔
      work.Attains await (fun value after => goal value (cleanup after)) state := by
  induction work generalizing state with
  | done value => simp [ending]
  | crash => simp [ending, Attains, runAlone]
  | act change next ih => exact ih state
  | pause wake next ih =>
    by_cases ready : wake.ready state = true
    · simpa [ending, Attains, runAlone, ready] using ih
    · cases alarm : wake.alarm with
      | none => simp [ending, Attains, runAlone, ready, alarm]
      | some moment => simpa [ending, Attains, runAlone, ready, alarm] using ih
  | mark next ih => exact ih

/-- The work never waits and is never given up, and each change that it may make to a state,
whatever comes between its moments, relates the state before it to the state after it. -/
def Promptly (allowed : σ → σ → Prop) : Program σ α → Prop
  | .done _ => True
  | .act change next => ∀ state, allowed state (change state) ∧ (next state).Promptly allowed
  | .mark next => next.Promptly allowed
  | .crash | .pause _ _ => False

namespace Promptly

variable {allowed : σ → σ → Prop}

theorem perform {action : σ → α × σ} (allows : ∀ state, allowed state (action state).2) :
    (perform action).Promptly allowed := fun state => ⟨allows state, trivial⟩

theorem get (still : ∀ state, allowed state state) : (get : Program σ σ).Promptly allowed :=
  fun state => ⟨still state, trivial⟩

theorem bind {work : Program σ α} {next : α → Program σ β} (first : work.Promptly allowed)
    (second : ∀ value, (next value).Promptly allowed) : (work.bind next).Promptly allowed := by
  induction work with
  | done value => exact second value
  | act change next ih => exact fun state => ⟨(first state).1, ih state (first state).2⟩
  | mark next ih => exact ih first
  | crash | pause => exact first.elim

/-- Alone, such work comes to its end, and its changes together are allowed if changes add up. -/
theorem attains {work : Program σ α} (promptly : work.Promptly allowed)
    (still : ∀ state, allowed state state)
    (adds : ∀ {first second third}, allowed first second → allowed second third →
      allowed first third) (state : σ) :
    work.Attains await (fun _ after => allowed state after) state := by
  induction work generalizing state with
  | done value => exact attains_done.mpr (still state)
  | act change next ih =>
    obtain ⟨allows, later⟩ := promptly state
    exact attains_act.mpr ((ih state later _).mono fun _ _ onward => adds allows onward)
  | mark next ih => exact attains_mark.mpr (ih promptly state)
  | crash | pause => exact promptly.elim

end Promptly

end ClusterPool.Program

namespace ClusterPool.Gate
open Program

/-- A gate looks at the turnstile that it updates. -/
def Lawful (gate : Gate σ) : Prop :=
  ∀ change state, gate.get (gate.update change state) = change (gate.get state)

variable {await : Nat → σ → σ} {goal : α → σ → Prop} {state : σ} {gate : Gate σ}

/-- Whoever comes to a free gate is admitted at once. -/
theorem attains_enter {goal : Unit → σ → Prop} (lawful : gate.Lawful)
    (free : (gate.get state).isFree = true) :
    gate.enter.Attains await goal state ↔ goal () (gate.update Turnstile.enter state) := by
  have admitted : ((gate.get (gate.update Turnstile.enter state)).served ==
      (gate.get state).issued) = true := by
    rw [lawful]
    exact BEq.symm free
  rw [enter, attains_act]
  exact attains_waitFor admitted

theorem attains_inside {work : Program σ α} (lawful : gate.Lawful)
    (free : (gate.get state).isFree = true) :
    (gate.inside work).Attains await goal state ↔
      work.Attains await (fun value after => goal value (gate.leave after))
        (gate.update Turnstile.enter state) := by
  rw [inside, attains_bind, attains_enter lawful free, attains_ending]

end ClusterPool.Gate
