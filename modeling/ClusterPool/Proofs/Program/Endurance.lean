import ClusterPool.Proofs.Program.Stretches
import ClusterPool.Program

/-! Work that is not given up, whatever it finds of what it has to expect. What that is may depend on
a token, which stands for what the work holds at the time. Where all of its pauses are sure to end,
such work comes to its end. -/
namespace ClusterPool

/-- What a piece of work has to expect: the states that it may find while it holds a token, and the
pauses that it may come to. -/
structure Prospect (σ τ : Type) where
  finds : τ → σ → Prop
  ends : Wake σ → τ → Prop

namespace Program

/-- Work that holds a token is not given up, comes to no other pauses, and holds the second token
when it is done. -/
def Endures (prospect : Prospect σ τ) : Program σ α → τ → τ → Prop
  | .done _, token, left => token = left
  | .crash, _, _ => False
  | .act change next, token, left => ∀ state, prospect.finds token state →
    ∃ granted, prospect.finds granted (change state) ∧ (next state).Endures prospect granted left
  | .pause wake next, token, left => prospect.ends wake token ∧ next.Endures prospect token left
  | .mark next, token, left => next.Endures prospect token left

/-- The same of work that cannot go on by itself. -/
def Standing.Endures (prospect : Prospect σ τ) (left : τ) (state : σ) : Standing σ α → Prop
  | .finished _ => prospect.finds left state
  | .crashed => False
  | .paused rest => ∃ token, prospect.finds token state ∧ prospect.ends rest.wake token ∧
    rest.next.Endures prospect token left

variable {prospect : Prospect σ τ} {token middle left : τ}

theorem endures_done {value : α} : (done value : Program σ α).Endures prospect token token := rfl

theorem endures_get : (get : Program σ σ).Endures prospect token token :=
  fun _ found => ⟨token, found, rfl⟩

theorem endures_modify {change : σ → σ}
    (keeps : ∀ state, prospect.finds token state → prospect.finds token (change state)) :
    (modify change).Endures prospect token token :=
  fun state found => ⟨token, keeps state found, rfl⟩

theorem endures_perform {action : σ → α × σ}
    (keeps : ∀ state, prospect.finds token state → prospect.finds token (action state).2) :
    (perform action).Endures prospect token token :=
  fun state found => ⟨token, keeps state found, rfl⟩

theorem endures_sleepUntil {moment : Nat} (ends : prospect.ends { alarm := some moment } token) :
    (sleepUntil moment : Program σ Unit).Endures prospect token token := ⟨ends, rfl⟩

namespace Endures

private theorem andThen {work : Program σ α} {next : α → Program σ β}
    (first : work.Endures prospect token middle)
    (second : ∀ value, (next value).Endures prospect middle left) :
    (work.bind next).Endures prospect token left := by
  induction work generalizing token with
  | done value =>
    obtain rfl : token = middle := first
    exact second value
  | crash => exact first
  | act change next ih =>
    intro state found
    obtain ⟨granted, finds, onward⟩ := first state found
    exact ⟨granted, finds, ih state onward⟩
  | pause wake next ih => exact ⟨first.1, ih first.2⟩
  | mark next ih => exact ih first

theorem bind {work : Program σ α} {next : α → Program σ β}
    (first : work.Endures prospect token token)
    (second : ∀ value, (next value).Endures prospect token left) :
    (work.bind next).Endures prospect token left := first.andThen second

theorem ending {cleanup : σ → σ} {work : Program σ α}
    (endures : work.Endures prospect token middle)
    (cleans : ∀ state, prospect.finds middle state → prospect.finds left (cleanup state)) :
    (work.ending cleanup).Endures prospect token left := by
  induction work generalizing token with
  | done value =>
    obtain rfl : token = middle := endures
    exact fun state found => ⟨left, cleans state found, rfl⟩
  | crash => exact endures.elim
  | act change next ih =>
    intro state found
    obtain ⟨granted, finds, onward⟩ := endures state found
    exact ⟨granted, finds, ih state onward⟩
  | pause wake next ih => exact ⟨endures.1, ih endures.2⟩
  | mark next ih => exact ih endures

theorem each {action : α → Program σ Unit}
    (endures : ∀ value, (action value).Endures prospect token token) (values : List α) :
    (each action values).Endures prospect token token := by
  induction values with
  | nil => exact rfl
  | cons value rest ih => exact (endures value).bind fun _ => ih

/-- From a state that it has to expect such work goes on to its end or to its next pause. -/
theorem stretch {work : Program σ α} (endures : work.Endures prospect token left) {state : σ}
    (found : prospect.finds token state) :
    (work.stretch state).1.Endures prospect left (work.stretch state).2 := by
  induction work generalizing token state with
  | done value =>
    obtain rfl : token = left := endures
    exact found
  | crash => exact endures.elim
  | act change next ih =>
    obtain ⟨granted, finds, onward⟩ := endures state found
    exact ih state onward finds
  | pause wake next => exact ⟨token, found, endures⟩
  | mark next ih => exact ih endures found

end Endures
end Program

/-- With this token the gate can be passed: whoever enters it holds a ticket in place of the token,
waits for nothing but what he has to expect, and has the token again when he leaves. -/
structure Prospect.Admits (prospect : Prospect σ τ) (gate : Gate σ) (token : τ)
    (holding : Nat → τ) : Prop where
  enters : ∀ state, prospect.finds token state →
    prospect.finds (holding (gate.get state).issued) (gate.update Turnstile.enter state)
  waits : ∀ ticket, (∀ state, prospect.finds (holding ticket) state →
    (gate.get state).served = ticket) ∨
      prospect.ends { ready := fun state => (gate.get state).served == ticket } (holding ticket)
  leaves : ∀ ticket state, prospect.finds (holding ticket) state →
    prospect.finds token (gate.leave state)

/-- Work that endures inside a gate does so from outside of it. -/
theorem Prospect.Admits.inside {prospect : Prospect σ τ} {gate : Gate σ} {token : τ}
    {holding : Nat → τ} (admits : prospect.Admits gate token holding) {work : Program σ α}
    (endures : ∀ ticket, work.Endures prospect (holding ticket) (holding ticket)) :
    (gate.inside work).Endures prospect token token := by
  intro before came
  let ticket := (gate.get before).issued
  have waits : (Program.waitFor fun state => (gate.get state).served == ticket).Endures prospect
      (holding ticket) (holding ticket) := by
    refine fun state found => ⟨_, found, ?_⟩
    dsimp only
    split
    · exact rfl
    · rename_i early
      refine ⟨(admits.waits ticket).resolve_left fun served => early ?_, rfl⟩
      exact beq_iff_eq.mpr (served state found)
  exact ⟨_, admits.enters before came,
    waits.bind fun _ => (endures ticket).ending (admits.leaves ticket)⟩

end ClusterPool
