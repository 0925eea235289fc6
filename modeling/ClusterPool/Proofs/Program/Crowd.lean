import ClusterPool.Proofs.Program.Alone

/-! Several parties at work on one state. Between two moments of one party the others may have any
number of theirs, newcomers may join, and the state may change from outside. What a party knows
has to survive all that. A discipline says what a party may do to the state and what it can rely
on meanwhile, and whatever is shown of the work of each party alone then holds in every crowd. -/
namespace ClusterPool
open Program

/-- Pieces of work under way at the same time, on a state that they share. -/
structure Crowd (σ α : Type) where
  state : σ
  parties : List (Program σ α) := []

/-- What a crowd is surrounded by: the time, and what changes the state apart from the parties. -/
structure Surroundings (σ : Type) where
  now : σ → Nat
  changes : σ → σ → Prop

namespace Crowd

/-- One moment of a crowd that admits newcomers with some work. -/
inductive Step (around : Surroundings σ) (admits : Program σ α → Prop) :
    Crowd σ α → Crowd σ α → Prop
  | act {state : σ} {parties : List (Program σ α)} {place : Nat} {change : σ → σ}
      {next : σ → Program σ α} (here : parties[place]? = some (.act change next)) :
      Step around admits ⟨state, parties⟩ ⟨change state, parties.set place (next state)⟩
  | resume {state : σ} {parties : List (Program σ α)} {place : Nat} {wake : Wake σ}
      {next : Program σ α} (here : parties[place]? = some (.pause wake next))
      (woken : wake.isOver around.now state = true) :
      Step around admits ⟨state, parties⟩ ⟨state, parties.set place next⟩
  | mark {state : σ} {parties : List (Program σ α)} {place : Nat} {next : Program σ α}
      (here : parties[place]? = some (.mark next)) :
      Step around admits ⟨state, parties⟩ ⟨state, parties.set place next⟩
  | join {state : σ} {parties : List (Program σ α)} {work : Program σ α} (admitted : admits work) :
      Step around admits ⟨state, parties⟩ ⟨state, parties ++ [work]⟩
  | outside {before after : σ} {parties : List (Program σ α)}
      (change : around.changes before after) :
      Step around admits ⟨before, parties⟩ ⟨after, parties⟩

/-- The crowds that can come of a state on which nobody is at work yet. -/
inductive Reached (around : Surroundings σ) (admits : Program σ α → Prop) (start : σ) :
    Crowd σ α → Prop
  | start : Reached around admits start ⟨start, []⟩
  | step {before after : Crowd σ α} (reached : Reached around admits start before)
      (step : Step around admits before after) : Reached around admits start after

end Crowd

/-- What the parties of a crowd may do to the state that they share. Each of them holds a token,
which stands for what it was granted. -/
structure Discipline (around : Surroundings σ) (τ : Type) where
  /-- What holds of the state at every moment. -/
  lawful : σ → Prop
  /-- The tokens can be held at the same time. -/
  assigned : σ → List τ → Prop
  /-- The token of a newcomer. -/
  fresh : τ
  /-- What the holder of a token may do, and the token that it holds afterwards. -/
  move : τ → σ → τ → σ → Prop
  /-- What may become of the state meanwhile, in the eyes of the holder of a token. -/
  rely : τ → σ → σ → Prop
  rely_refl : ∀ token state, rely token state state
  rely_trans : ∀ {token first second third},
    rely token first second → rely token second third → rely token first third
  stay : ∀ token state, move token state token state
  joins : ∀ {state tokens}, assigned state tokens → assigned state (tokens ++ [fresh])
  lawful_move : ∀ {token before granted after},
    move token before granted after → lawful before → lawful after
  assigned_move : ∀ {tokens : List τ} {place : Nat} {token before granted after},
    tokens[place]? = some token → move token before granted after → assigned before tokens →
      assigned after (tokens.set place granted)
  /-- The other parties can rely on what a party does. -/
  rely_move : ∀ {tokens : List τ} {place : Nat} {token before granted after},
    tokens[place]? = some token → move token before granted after → assigned before tokens →
      ∀ {other : Nat} {held}, other ≠ place → tokens[other]? = some held → rely held before after
  lawful_outside : ∀ {before after}, around.changes before after → lawful before → lawful after
  assigned_outside : ∀ {before after tokens},
    around.changes before after → assigned before tokens → assigned after tokens
  rely_outside : ∀ {before after}, around.changes before after → ∀ token, rely token before after

namespace Program

variable {around : Surroundings σ} {rules : Discipline around τ}

/-- The work keeps to the discipline from this state on, whatever may become of the state between
its moments. If it is done then `goal` holds of its value, and if it is given up then `dropped`
holds, each of the token that it then holds and of the state. -/
def Keeps (rules : Discipline around τ) (goal : α → τ → σ → Prop) (dropped : τ → σ → Prop) :
    Program σ α → τ → σ → Prop
  | .done value, token, state => ∀ later, rules.rely token state later → goal value token later
  | .crash, token, state => ∀ later, rules.rely token state later → dropped token later
  | .act change next, token, state =>
    ∀ later, rules.rely token state later → rules.lawful later → ∃ granted,
      rules.move token later granted (change later) ∧
        (next later).Keeps rules goal dropped granted (change later)
  | .pause wake next, token, state =>
    ∀ later, rules.rely token state later → rules.lawful later →
      wake.isOver around.now later = true → next.Keeps rules goal dropped token later
  | .mark next, token, state => next.Keeps rules goal dropped token state

variable {goal : α → τ → σ → Prop} {dropped : τ → σ → Prop} {token : τ} {state : σ}

namespace Keeps

/-- What work keeps to survives whatever may become of the state before it goes on. -/
theorem stable {work : Program σ α} (keeps : work.Keeps rules goal dropped token state) {later : σ}
    (rely : rules.rely token state later) : work.Keeps rules goal dropped token later := by
  induction work with
  | done value => exact fun last late => keeps last (rules.rely_trans rely late)
  | crash => exact fun last late => keeps last (rules.rely_trans rely late)
  | act change next => exact fun last late => keeps last (rules.rely_trans rely late)
  | pause wake next => exact fun last late => keeps last (rules.rely_trans rely late)
  | mark next ih => exact ih keeps

theorem mono {weaker : α → τ → σ → Prop} {lost : τ → σ → Prop} {work : Program σ α}
    (keeps : work.Keeps rules goal dropped token state)
    (implies : ∀ value token state, goal value token state → weaker value token state)
    (loses : ∀ token state, dropped token state → lost token state) :
    work.Keeps rules weaker lost token state := by
  induction work generalizing token state with
  | done value => exact fun later rely => implies value token later (keeps later rely)
  | crash => exact fun later rely => loses token later (keeps later rely)
  | act change next ih =>
    intro later rely lawful
    obtain ⟨granted, move, keeps⟩ := keeps later rely lawful
    exact ⟨granted, move, ih later keeps⟩
  | pause wake next ih => exact fun later rely lawful woken => ih (keeps later rely lawful woken)
  | mark next ih => exact ih keeps

/-- One piece of work after the other: the second goes on with what the first has reached. -/
theorem bind {work : Program σ α} {next : α → Program σ β} {goal : β → τ → σ → Prop}
    (keeps : work.Keeps rules
      (fun value token state => (next value).Keeps rules goal dropped token state) dropped token
      state) :
    (work.bind next).Keeps rules goal dropped token state := by
  induction work generalizing token state with
  | done value => exact keeps state (rules.rely_refl token state)
  | crash => exact keeps
  | act change next ih =>
    intro later rely lawful
    obtain ⟨granted, move, keeps⟩ := keeps later rely lawful
    exact ⟨granted, move, ih later keeps⟩
  | pause wake next ih => exact fun later rely lawful woken => ih (keeps later rely lawful woken)
  | mark next ih => exact ih keeps

/-- Work with a change at its end makes the change with what it has reached, also if it is given
up. -/
theorem ending {cleanup : σ → σ} {work : Program σ α}
    (keeps : work.Keeps rules
      (fun value token state =>
        (act cleanup fun _ => done value).Keeps rules goal dropped token state)
      (fun token state =>
        (act cleanup fun _ => crash : Program σ α).Keeps rules goal dropped token state) token
      state) :
    (work.ending cleanup).Keeps rules goal dropped token state := by
  induction work generalizing token state with
  | done value => exact keeps state (rules.rely_refl token state)
  | crash => exact keeps state (rules.rely_refl token state)
  | act change next ih =>
    intro later rely lawful
    obtain ⟨granted, move, keeps⟩ := keeps later rely lawful
    exact ⟨granted, move, ih later keeps⟩
  | pause wake next ih => exact fun later rely lawful woken => ih (keeps later rely lawful woken)
  | mark next ih => exact ih keeps

/-- Work waits for a state that is ready, and goes on with what it then finds. -/
theorem waitFor {ready : σ → Bool} {goal : Unit → τ → σ → Prop}
    (keeps : ∀ later, rules.rely token state later → ready later = true →
      (done ()).Keeps rules goal dropped token later) :
    (waitFor ready).Keeps rules goal dropped token state := by
  intro later rely _
  refine ⟨token, rules.stay token later, ?_⟩
  dsimp only
  split
  · rename_i isReady
    exact keeps later rely isReady
  · intro last late _ woken
    apply keeps last (rules.rely_trans rely late)
    simpa [Wake.isOver] using woken

end Keeps

/-- Each change that the work may make to a state, whatever comes between its moments, relates the
state before it to the state after it. -/
def Within (allowed : σ → σ → Prop) : Program σ α → Prop
  | .done _ | .crash => True
  | .act change next => ∀ state, allowed state (change state) ∧ (next state).Within allowed
  | .pause _ next | .mark next => next.Within allowed

variable {allowed : σ → σ → Prop}

@[simp] theorem within_done {value : α} : (done value : Program σ α).Within allowed := trivial

@[simp] theorem within_crash : (crash : Program σ α).Within allowed := trivial

@[simp] theorem within_sleepUntil {moment : Nat} :
    (sleepUntil moment : Program σ Unit).Within allowed := trivial

@[simp] theorem within_modify {change : σ → σ} :
    (modify change).Within allowed ↔ ∀ state, allowed state (change state) := by
  simp [modify, Within]

@[simp] theorem within_perform {action : σ → α × σ} :
    (perform action).Within allowed ↔ ∀ state, allowed state (action state).2 := by
  simp [perform, Within]

theorem within_get (still : ∀ state, allowed state state) :
    (get : Program σ σ).Within allowed := fun state => ⟨still state, trivial⟩

theorem within_waitFor (still : ∀ state, allowed state state) (ready : σ → Bool) :
    (waitFor ready).Within allowed := by
  refine fun state => ⟨still state, ?_⟩
  dsimp only
  split <;> trivial

/-- Work that never waits makes the same changes whatever else goes on. -/
theorem Promptly.within {work : Program σ α} (promptly : work.Promptly allowed) :
    work.Within allowed := by
  induction work with
  | done => trivial
  | act change next ih => exact fun state => ⟨(promptly state).1, ih state (promptly state).2⟩
  | mark next ih => exact ih promptly
  | crash | pause => exact promptly.elim

namespace Within

theorem mono {weaker : σ → σ → Prop} {work : Program σ α} (within : work.Within allowed)
    (implies : ∀ before after, allowed before after → weaker before after) :
    work.Within weaker := by
  induction work with
  | done | crash => trivial
  | act change next ih =>
    exact fun state => ⟨implies state _ (within state).1, ih state (within state).2⟩
  | pause wake next ih => exact ih within
  | mark next ih => exact ih within

theorem bind {work : Program σ α} {next : α → Program σ β} (first : work.Within allowed)
    (second : ∀ value, (next value).Within allowed) : (work.bind next).Within allowed := by
  induction work with
  | done value => exact second value
  | crash => trivial
  | act change next ih => exact fun state => ⟨(first state).1, ih state (first state).2⟩
  | pause wake next ih => exact ih first
  | mark next ih => exact ih first

/-- Whatever is true of each moment of work that goes on is true of its first part. -/
theorem of_bind {work : Program σ α} {next : α → Program σ β}
    (within : (work.bind next).Within allowed) : work.Within allowed := by
  induction work with
  | done | crash => trivial
  | act change next ih => exact fun state => ⟨(within state).1, ih state (within state).2⟩
  | pause wake next ih => exact ih within
  | mark next ih => exact ih within

theorem ending {cleanup : σ → σ} {work : Program σ α} (within : work.Within allowed)
    (cleans : ∀ state, allowed state (cleanup state)) :
    (work.ending cleanup).Within allowed := by
  induction work with
  | done | crash => exact fun state => ⟨cleans state, trivial⟩
  | act change next ih => exact fun state => ⟨(within state).1, ih state (within state).2⟩
  | pause wake next ih => exact ih within
  | mark next ih => exact ih within

theorem each {action : α → Program σ Unit} (within : ∀ value, (action value).Within allowed)
    (values : List α) : (each action values).Within allowed := by
  induction values with
  | nil => trivial
  | cons value rest ih => exact (within value).bind fun _ => ih

/-- Work inside a gate, which is passed in both directions by allowed changes. -/
theorem inside {gate : Gate σ} {work : Program σ α} (within : work.Within allowed)
    (still : ∀ state, allowed state state)
    (enters : ∀ state, allowed state (gate.update Turnstile.enter state))
    (leaves : ∀ state, allowed state (gate.leave state)) :
    (gate.inside work).Within allowed :=
  Within.bind (fun state => ⟨enters state, within_waitFor still _⟩) fun _ => within.ending leaves

/-- Work whose changes the holder of a token may make keeps to the discipline. What it knew before
it still knows afterwards, if neither its own changes nor those of the others put an end to it. -/
theorem keeps {work : Program σ α} {knows : σ → Prop} (within : work.Within allowed)
    (moves : ∀ before after, allowed before after → knows before →
      rules.move token before token after ∧ knows after)
    (stable : ∀ before after, rules.rely token before after → knows before → knows after)
    (holds : knows state) :
    work.Keeps rules (fun _ held after => held = token ∧ knows after)
      (fun held after => held = token ∧ knows after) token state := by
  induction work generalizing state with
  | done value => exact fun later rely => ⟨rfl, stable state later rely holds⟩
  | crash => exact fun later rely => ⟨rfl, stable state later rely holds⟩
  | act change next ih =>
    intro later rely _
    obtain ⟨move, after⟩ := moves later _ (within later).1 (stable state later rely holds)
    exact ⟨token, move, ih later (within later).2 after⟩
  | pause wake next ih =>
    exact fun later rely _ _ => ih within (stable state later rely holds)
  | mark next ih => exact ih within holds

end Within

end Program

namespace Crowd

variable {around : Surroundings σ} {rules : Discipline around τ} {admits : Program σ α → Prop}
  {goal : α → τ → σ → Prop} {dropped : τ → σ → Prop}

/-- Every party holds a token with which its work keeps to the discipline. -/
structure Kept (rules : Discipline around τ) (goal : α → τ → σ → Prop) (dropped : τ → σ → Prop)
    (crowd : Crowd σ α) (tokens : List τ) : Prop where
  held : tokens.length = crowd.parties.length
  lawful : rules.lawful crowd.state
  assigned : rules.assigned crowd.state tokens
  keeps : ∀ {place : Nat} {work : Program σ α} {token : τ},
    crowd.parties[place]? = some work → tokens[place]? = some token →
      work.Keeps rules goal dropped token crowd.state

namespace Kept

variable {state : σ} {parties : List (Program σ α)} {tokens : List τ} {place : Nat}

/-- Who has a party has its token. -/
theorem token (kept : Kept rules goal dropped ⟨state, parties⟩ tokens) {work : Program σ α}
    (here : parties[place]? = some work) : ∃ token, tokens[place]? = some token := by
  have inside : place < tokens.length := by
    rw [kept.held]
    exact (List.getElem?_eq_some_iff.mp here).1
  exact ⟨tokens[place], List.getElem?_eq_getElem inside⟩

/-- A party that makes a move takes the crowd on, since the others can rely on it. -/
theorem move (kept : Kept rules goal dropped ⟨state, parties⟩ tokens) {work : Program σ α}
    {token granted : τ} {after : σ} (holds : tokens[place]? = some token)
    (move : rules.move token state granted after)
    (keeps : work.Keeps rules goal dropped granted after) :
    Kept rules goal dropped ⟨after, parties.set place work⟩ (tokens.set place granted) where
  held := by simpa using kept.held
  lawful := rules.lawful_move move kept.lawful
  assigned := rules.assigned_move holds move kept.assigned
  keeps := by
    intro other work' token' here holds'
    rw [List.getElem?_set] at here holds'
    by_cases same : place = other
    · subst same
      rw [if_pos rfl] at here holds'
      split at here
      · cases here
        split at holds'
        · cases holds'
          exact keeps
        · cases holds'
      · cases here
    · rw [if_neg same] at here holds'
      exact (kept.keeps here holds').stable
        (rules.rely_move holds move kept.assigned (Ne.symm same) holds')

end Kept

/-- Every moment of a crowd leaves every party keeping to the discipline, and is a move of one of
them or a change from outside. -/
theorem Step.kept {before after : Crowd σ α} (step : Step around admits before after)
    (newcomers : ∀ work, admits work → ∀ state, work.Keeps rules goal dropped rules.fresh state)
    {tokens : List τ} (kept : Kept rules goal dropped before tokens) :
    (∃ tokens, Kept rules goal dropped after tokens) ∧
      ((∃ token granted, rules.move token before.state granted after.state) ∨
        around.changes before.state after.state) := by
  cases step with
  | act here =>
    obtain ⟨token, holds⟩ := kept.token here
    obtain ⟨granted, move, keeps⟩ := kept.keeps here holds _ (rules.rely_refl _ _) kept.lawful
    exact ⟨⟨_, kept.move holds move keeps⟩, .inl ⟨token, granted, move⟩⟩
  | @resume state _ _ _ _ here woken =>
    obtain ⟨token, holds⟩ := kept.token here
    have keeps := kept.keeps here holds _ (rules.rely_refl _ _) kept.lawful woken
    have move := rules.stay token state
    exact ⟨⟨_, kept.move holds move keeps⟩, .inl ⟨token, token, move⟩⟩
  | @mark state _ _ _ here =>
    obtain ⟨token, holds⟩ := kept.token here
    have keeps := kept.keeps here holds
    have move := rules.stay token state
    exact ⟨⟨_, kept.move holds move (by exact keeps)⟩, .inl ⟨token, token, move⟩⟩
  | @join state parties work admitted =>
    refine ⟨⟨tokens ++ [rules.fresh], ?_, kept.lawful, rules.joins kept.assigned, ?_⟩,
      .inl ⟨rules.fresh, rules.fresh, rules.stay _ _⟩⟩
    · simpa using kept.held
    · intro place work' token here holds
      have length : tokens.length = parties.length := kept.held
      by_cases newest : place < parties.length
      · rw [List.getElem?_append_left newest] at here
        rw [List.getElem?_append_left (length ▸ newest)] at holds
        exact kept.keeps here holds
      · have last : place - parties.length = 0 := by
          have inside := (List.getElem?_eq_some_iff.mp here).1
          simp at inside
          omega
        rw [List.getElem?_append_right (by omega), last] at here
        rw [List.getElem?_append_right (by omega), length, last] at holds
        cases here
        cases holds
        exact newcomers work admitted state
  | outside change =>
    refine ⟨⟨tokens, kept.held, rules.lawful_outside change kept.lawful,
      rules.assigned_outside change kept.assigned, ?_⟩, .inr change⟩
    intro place work token here holds
    exact (kept.keeps here holds).stable (rules.rely_outside change token)

/-- In every crowd that can come of a lawful state, every party keeps to the discipline. -/
theorem Reached.kept {start : σ} {crowd : Crowd σ α} (reached : Reached around admits start crowd)
    (newcomers : ∀ work, admits work → ∀ state, work.Keeps rules goal dropped rules.fresh state)
    (lawful : rules.lawful start) (assigned : rules.assigned start []) :
    ∃ tokens, Kept rules goal dropped crowd tokens := by
  induction reached with
  | start => exact ⟨[], rfl, lawful, assigned, by simp⟩
  | step _ step ih =>
    obtain ⟨tokens, kept⟩ := ih
    exact (step.kept newcomers kept).1

/-- What no moment of any party puts an end to, nor a change from outside, holds in every crowd that
can come of a state in which it holds. -/
theorem Reached.preserves {start : σ} {crowd : Crowd σ α} {holds : σ → Prop}
    (reached : Reached around admits start crowd)
    (admitted : ∀ work, admits work → work.Within fun before after => holds before → holds after)
    (outside : ∀ before after, around.changes before after → holds before → holds after)
    (begins : holds start) :
    holds crowd.state ∧ ∀ party ∈ crowd.parties,
      party.Within fun before after => holds before → holds after := by
  induction reached with
  | start => exact ⟨begins, by simp⟩
  | step _ step ih =>
    obtain ⟨now, parties⟩ := ih
    have replaced : ∀ {works : List (Program σ α)} {place : Nat} {next : Program σ α},
        (∀ party ∈ works, party.Within fun before after => holds before → holds after) →
          next.Within (fun before after => holds before → holds after) →
            ∀ party ∈ works.set place next,
              party.Within fun before after => holds before → holds after := by
      intro works place next all new party member
      rcases List.mem_or_eq_of_mem_set member with old | rfl
      · exact all party old
      · exact new
    cases step with
    | act here =>
      have within := parties _ (List.mem_of_getElem? here)
      exact ⟨(within _).1 now, replaced parties (within _).2⟩
    | resume here =>
      have within := parties _ (List.mem_of_getElem? here)
      exact ⟨now, replaced parties (by exact within)⟩
    | mark here =>
      have within := parties _ (List.mem_of_getElem? here)
      exact ⟨now, replaced parties (by exact within)⟩
    | join admits =>
      refine ⟨now, fun party member => ?_⟩
      rcases List.mem_append.mp member with old | new
      · exact parties party old
      · exact List.mem_singleton.mp new ▸ admitted _ admits
    | outside change => exact ⟨outside _ _ change now, parties⟩

/-- The party at this place has its next moment, if it can go on. -/
def advance (around : Surroundings σ) (place : Nat) (crowd : Crowd σ α) : Crowd σ α :=
  match crowd.parties[place]? with
  | some (.act change next) =>
    ⟨change crowd.state, crowd.parties.set place (next crowd.state)⟩
  | some (.pause wake next) =>
    if wake.isOver around.now crowd.state then ⟨crowd.state, crowd.parties.set place next⟩
    else crowd
  | some (.mark next) => ⟨crowd.state, crowd.parties.set place next⟩
  | _ => crowd

/-- The party at this place goes on for so many moments. -/
def advances (around : Surroundings σ) (place : Nat) : Nat → Crowd σ α → Crowd σ α
  | 0, crowd => crowd
  | moments + 1, crowd => advances around place moments (crowd.advance around place)

/-- Whoever has a change to make can go on. -/
theorem Step.advance {crowd : Crowd σ α} {place : Nat} {change : σ → σ} {next : σ → Program σ α}
    (here : crowd.parties[place]? = some (.act change next)) :
    Step around admits crowd (crowd.advance around place) := by
  rw [Crowd.advance, here]
  exact .act here

/-- A party goes on, or nothing happens since it cannot. -/
theorem advance_steps (crowd : Crowd σ α) (place : Nat) :
    Step around admits crowd (crowd.advance around place) ∨
      crowd.advance around place = crowd := by
  unfold Crowd.advance
  split
  · rename_i here
    exact .inl (.act here)
  · rename_i here
    split
    · rename_i woken
      exact .inl (.resume here woken)
    · exact .inr rfl
  · rename_i here
    exact .inl (.mark here)
  · exact .inr rfl

theorem Reached.advance {start : σ} {crowd : Crowd σ α}
    (reached : Reached around admits start crowd) (place : Nat) :
    Reached around admits start (crowd.advance around place) := by
  rcases crowd.advance_steps place with step | same
  · exact reached.step step
  · rw [same]
    exact reached

theorem Reached.advances {start : σ} {crowd : Crowd σ α}
    (reached : Reached around admits start crowd) (place moments : Nat) :
    Reached around admits start (crowd.advances around place moments) := by
  induction moments generalizing crowd with
  | zero => exact reached
  | succ moments ih => exact ih (reached.advance place)

end Crowd
end ClusterPool
