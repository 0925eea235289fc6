import ClusterPool.Proofs.Program.Crowd

/-! What is certain of the outcome of a piece of work that is done with nobody else about, if it
comes to its end at all. That needs no knowledge of the state in which the work begins, so that it
can be said of work in the middle of other work. -/
namespace ClusterPool.Program

/-- If the work, done alone, comes to its end, then `goal` holds of its value and of the state it
leaves. -/
def Ensures (await : Nat → σ → σ) (goal : α → σ → Prop) (work : Program σ α) (state : σ) : Prop :=
  ∀ value after, work.runAlone await state = (some value, after) → goal value after

variable {await : Nat → σ → σ} {goal : α → σ → Prop} {state : σ}

@[simp] theorem ensures_done {value : α} :
    (done value).Ensures await goal state ↔ goal value state := by
  constructor
  · exact fun ensures => ensures value state rfl
  · rintro holds _ _ ⟨⟩
    exact holds

@[simp] theorem ensures_act {change : σ → σ} {next : σ → Program σ α} :
    (act change next).Ensures await goal state ↔
      (next state).Ensures await goal (change state) := Iff.rfl

@[simp] theorem ensures_get {goal : σ → σ → Prop} :
    (get : Program σ σ).Ensures await goal state ↔ goal state state := by simp [get]

@[simp] theorem ensures_modify {change : σ → σ} {goal : Unit → σ → Prop} :
    (modify change).Ensures await goal state ↔ goal () (change state) := by simp [modify]

@[simp] theorem ensures_perform {action : σ → α × σ} :
    (perform action).Ensures await goal state ↔ goal (action state).1 (action state).2 := by
  simp [perform]

/-- What work attains is certain of its outcome. -/
theorem Attains.ensures {work : Program σ α} (attains : work.Attains await goal state) :
    work.Ensures await goal state := fun _ _ ran => attains.of_ran ran

namespace Ensures

theorem mono {weaker : α → σ → Prop} {work : Program σ α} (ensures : work.Ensures await goal state)
    (implies : ∀ value after, goal value after → weaker value after) :
    work.Ensures await weaker state :=
  fun value after ran => implies value after (ensures value after ran)

/-- One piece of work after the other: the second starts from what is certain of the first. -/
theorem bind {work : Program σ α} {next : α → Program σ β} {goal : β → σ → Prop}
    (ensures : work.Ensures await (fun value after => (next value).Ensures await goal after)
      state) : (work.bind next).Ensures await goal state := by
  intro value after ran
  rw [runAlone_bind] at ran
  cases first : work.runAlone await state with
  | mk ended middle =>
    rw [first] at ran
    cases ended with
    | none => cases ran
    | some between => exact ensures between middle first value after ran

/-- Work with a change at its end leaves what the change makes of its own outcome. -/
theorem ending {cleanup : σ → σ} {work : Program σ α}
    (ensures : work.Ensures await (fun value after => goal value (cleanup after)) state) :
    (work.ending cleanup).Ensures await goal state := by
  induction work generalizing state with
  | done value =>
    have holds := ensures_done.mp ensures
    exact ensures_act.mpr (ensures_done.mpr holds)
  | crash => exact fun _ _ ran => by cases ran
  | act change next ih => exact ih state ensures
  | pause wake next ih =>
    by_cases ready : wake.ready state = true
    · simp only [Ensures, Program.ending, runAlone, ready, ↓reduceIte] at ensures ⊢
      exact ih ensures
    · cases alarm : wake.alarm with
      | none => simp [Ensures, Program.ending, runAlone, ready, alarm]
      | some moment =>
        simp only [Ensures, Program.ending, runAlone, ready, alarm] at ensures ⊢
        exact ih ensures
  | mark next ih => exact ih ensures

end Ensures

/-- Changes of which each is allowed lead to a state that is allowed, if changes add up. -/
theorem Within.ensures {allowed : σ → σ → Prop} {work : Program σ α} (within : work.Within allowed)
    (still : ∀ state, allowed state state)
    (adds : ∀ {first second third}, allowed first second → allowed second third →
      allowed first third)
    (waits : ∀ moment state, allowed state (await moment state)) (state : σ) :
    work.Ensures await (fun _ after => allowed state after) state := by
  induction work generalizing state with
  | done value => exact ensures_done.mpr (still state)
  | crash => exact fun _ _ ran => by cases ran
  | act change next ih =>
    obtain ⟨allows, later⟩ := within state
    exact (ih state later (change state)).mono fun _ _ onward => adds allows onward
  | pause wake next ih =>
    intro value after ran
    unfold runAlone at ran
    split at ran
    · exact ih within state value after ran
    · split at ran
      · exact adds (waits _ state) (ih within _ value after ran)
      · cases ran
  | mark next ih => exact ih within state

end ClusterPool.Program

namespace ClusterPool.Gate
open Program

/-- What is certain of work inside a gate that is free when it begins. -/
theorem ensures_inside {await : Nat → σ → σ} {goal : α → σ → Prop} {state : σ} {gate : Gate σ}
    {work : Program σ α} (lawful : gate.Lawful) (free : (gate.get state).isFree = true)
    (ensures : work.Ensures await (fun value after => goal value (gate.leave after))
      (gate.update Turnstile.enter state)) :
    (gate.inside work).Ensures await goal state :=
  Ensures.bind ((attains_enter lawful free).mpr (Ensures.ending ensures)).ensures

end ClusterPool.Gate
