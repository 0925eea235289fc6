import ClusterPool.Proofs.Program.Crowd

/-! What is seen of a piece of work. Work can remember the states that it found without doing anything
else for it, and in a crowd these are states that the crowd was in. An onlooker of work that goes on
alone compares each state that it finds with the one before, and so what he has noted at the end is told
by the states that the work remembers. -/
namespace ClusterPool.Program

/-- The same work, which comes with the states that it found at its moments, the last first. -/
def remembering (seen : List σ) : Program σ α → Program σ (α × List σ)
  | .done value => .done (value, seen)
  | .crash => .crash
  | .act change next => .act change fun state => (next state).remembering (state :: seen)
  | .pause wake next => .pause wake (next.remembering seen)
  | .mark next => .mark (next.remembering seen)

/-- Work that remembers is the same work, moment for moment. -/
theorem remembering_forgotten (work : Program σ α) (seen : List σ) :
    ((work.remembering seen).bind fun known => done known.1) = work := by
  induction work generalizing seen with
  | done | crash => rfl
  | act change next ih => exact congrArg (Program.act change) (funext fun state => ih state _)
  | pause wake next ih => exact congrArg (Program.pause wake) (ih seen)
  | mark next ih => exact congrArg Program.mark (ih seen)

/-- It comes to the same end. -/
theorem ran_of_remembering {await : Nat → σ → σ} {work : Program σ α} {seen : List σ}
    {known : α × List σ} {state after : σ}
    (ran : (work.remembering seen).runAlone await state = (some known, after)) :
    work.runAlone await state = (some known.1, after) := by
  rw [← remembering_forgotten work seen, runAlone_bind, ran]
  rfl

theorem remembering_bind (work : Program σ α) (next : α → Program σ β) (seen : List σ) :
    (work.bind next).remembering seen =
      (work.remembering seen).bind fun known => (next known.1).remembering known.2 := by
  induction work generalizing seen with
  | done | crash => rfl
  | act change rest ih => exact congrArg (Program.act change) (funext fun state => ih state _)
  | pause wake rest ih => exact congrArg (Program.pause wake) (ih seen)
  | mark rest ih => exact congrArg Program.mark (ih seen)

variable {around : Surroundings σ} {rules : Discipline around τ} {allowed : σ → σ → Prop}

/-- Work that makes none but allowed changes remembers lawful states, and what has become of each
of them since is what could be relied on. -/
theorem Within.remembers {work : Program σ α} {token : τ} (within : work.Within allowed)
    (moves : ∀ before after, allowed before after →
      rules.move token before token after ∧ rules.rely token before after)
    {seen : List σ} {state : σ}
    (past : ∀ former ∈ seen, rules.lawful former ∧ rules.rely token former state) :
    (work.remembering seen).Keeps rules
      (fun known _ after => ∀ former ∈ known.2, rules.lawful former ∧ rules.rely token former after)
      (fun _ _ => True) token state := by
  induction work generalizing seen state with
  | done value =>
    exact fun later rely former member =>
      (past former member).imp_right fun since => rules.rely_trans since rely
  | crash => exact fun _ _ => trivial
  | act change next ih =>
    intro later rely lawful
    obtain ⟨move, onward⟩ := moves later _ (within later).1
    refine ⟨token, move, ih later (within later).2 fun former member => ?_⟩
    rcases List.mem_cons.mp member with rfl | earlier
    · exact ⟨lawful, onward⟩
    · exact (past former earlier).imp_right fun since =>
        rules.rely_trans (rules.rely_trans since rely) onward
  | pause wake next ih =>
    intro later rely _ _
    exact ih within fun former member =>
      (past former member).imp_right fun since => rules.rely_trans since rely
  | mark next ih => exact ih within past

/-- What is noted from each of these states to the next, up to a last one; the latest is first. -/
def trace (between : σ → σ → List ω) : List σ → σ → List ω
  | [], _ => []
  | found :: earlier, state => trace between earlier found ++ between found state

/-- Alone, the work comes to its end, `notes` are noted meanwhile, and `goal` holds in the end. -/
def Traces (await : Nat → σ → σ) (between : σ → σ → List ω) (notes : List ω) (goal : α → σ → Prop)
    (work : Program σ α) (state : σ) : Prop :=
  ∀ seen, (work.remembering seen).Attains await (fun known after =>
    trace between known.2 after = trace between seen state ++ notes ∧ goal known.1 after) state

variable {await : Nat → σ → σ} {between : σ → σ → List ω} {notes : List ω} {goal : α → σ → Prop}
  {state : σ}

theorem traces_done {value : α} (holds : goal value state) :
    (done value).Traces await between [] goal state :=
  fun _ => attains_done.mpr ⟨(List.append_nil _).symm, holds⟩

theorem traces_act {change : σ → σ} {next : σ → Program σ α} {later : List ω}
    (noted : between state (change state) = notes)
    (traces : (next state).Traces await between later goal (change state)) :
    (act change next).Traces await between (notes ++ later) goal state := by
  intro seen
  refine attains_act.mpr ((traces (state :: seen)).mono ?_)
  rintro known after ⟨whole, holds⟩
  rw [trace, noted, List.append_assoc] at whole
  exact ⟨whole, holds⟩

theorem traces_modify {change : σ → σ} {goal : Unit → σ → Prop}
    (noted : between state (change state) = notes) (holds : goal () (change state)) :
    (modify change).Traces await between notes goal state := by
  have whole : (modify change).Traces await between (notes ++ []) goal state :=
    traces_act noted (traces_done holds)
  rwa [List.append_nil] at whole

theorem traces_perform {action : σ → α × σ} (noted : between state (action state).2 = notes)
    (holds : goal (action state).1 (action state).2) :
    (perform action).Traces await between notes goal state := by
  have whole : (perform action).Traces await between (notes ++ []) goal state :=
    traces_act noted (traces_done holds)
  rwa [List.append_nil] at whole

namespace Traces

theorem mono {weaker : α → σ → Prop} {work : Program σ α}
    (traces : work.Traces await between notes goal state)
    (implies : ∀ value after, goal value after → weaker value after) :
    work.Traces await between notes weaker state :=
  fun seen => (traces seen).mono fun _ _ holds => holds.imp_right (implies _ _)

/-- What is noted of one piece of work is followed by what is noted of the next. -/
theorem bind {work : Program σ α} {next : α → Program σ β} {later : List ω} {goal : β → σ → Prop}
    (traces : work.Traces await between notes
      (fun value after => (next value).Traces await between later goal after) state) :
    (work.bind next).Traces await between (notes ++ later) goal state := by
  intro seen
  rw [remembering_bind]
  refine attains_bind.mpr ((traces seen).mono ?_)
  rintro known middle ⟨noted, onward⟩
  refine (onward known.2).mono ?_
  rintro final after ⟨whole, holds⟩
  rw [noted, List.append_assoc] at whole
  exact ⟨whole, holds⟩

end Traces

private theorem trace_await
    (waits : ∀ moment former state, between former (await moment state) = between former state)
    (moment : Nat) (seen : List σ) (state : σ) :
    trace between seen (await moment state) = trace between seen state := by
  cases seen with
  | nil => rfl
  | cons found earlier => rw [trace, trace, waits]

/-- Nothing is noted of work that makes only changes of which nothing is noted. -/
theorem Attains.traces {work : Program σ α} (attains : work.Attains await goal state)
    (within : work.Within fun before after => between before after = [])
    (waits : ∀ moment former state,
      between former (await moment state) = between former state) :
    work.Traces await between [] goal state := by
  intro seen
  induction work generalizing state seen with
  | done value => exact traces_done (attains_done.mp attains) seen
  | crash =>
    obtain ⟨_, _, ⟨⟩, _⟩ := attains
  | act change next ih =>
    exact traces_act (within state).1 (ih state (attains_act.mp attains) (within state).2) seen
  | pause wake next ih =>
    by_cases ready : wake.ready state = true
    · simp only [Attains, runAlone, ready, ↓reduceIte] at attains
      simpa [Attains, remembering, runAlone, ready] using ih attains within seen
    · cases alarm : wake.alarm with
      | none => simp [Attains, runAlone, ready, alarm] at attains
      | some moment =>
        simp only [Attains, runAlone, ready, alarm] at attains
        have onward := ih attains within seen
        rw [trace_await waits] at onward
        simpa [Attains, remembering, runAlone, ready, alarm] using onward
  | mark next ih => exact ih attains within seen

end ClusterPool.Program
