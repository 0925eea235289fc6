import ClusterPool.Proofs.Program.Crowd

/-! Two parties at work on one state, with nobody to join them. What each of them holds and has
still to do is told by a record of its own, and a statement on the state and both records holds at
every moment: each party keeps its record such that the statement goes on to hold, whatever the
record of the other says. -/
namespace ClusterPool
open Program

/-- The crowds that can come of one which nobody joins. -/
inductive Crowd.Becomes (around : Surroundings σ) (start : Crowd σ α) : Crowd σ α → Prop
  | start : Becomes around start start
  | step {before after : Crowd σ α} (becomes : Becomes around start before)
      (step : Step around (fun _ => False) before after) : Becomes around start after

namespace Crowd.Becomes

variable {around : Surroundings σ} {start : Crowd σ α}

theorem advances {crowd : Crowd σ α} (becomes : Becomes around start crowd)
    (place moments : Nat) : Becomes around start (crowd.advances around place moments) := by
  induction moments generalizing crowd with
  | zero => exact becomes
  | succ moments ih =>
    refine @ih (crowd.advance around place) ?_
    rcases crowd.advance_steps place with step | same
    · exact becomes.step step
    · rw [same]
      exact becomes

theorem outside {before after : σ} {parties : List (Program σ α)}
    (becomes : Becomes around start ⟨before, parties⟩) (change : around.changes before after) :
    Becomes around start ⟨after, parties⟩ := becomes.step (.outside change)

end Crowd.Becomes

/-- What two parties have come to, once both are done. -/
def Crowd.outcome? (crowd : Crowd σ α) : Option (α × α) :=
  match crowd.parties with
  | [.done first, .done second] => some (first, second)
  | _ => none

theorem Crowd.eq_of_outcome? {crowd : Crowd σ α} {first second : α}
    (both : crowd.outcome? = some (first, second)) :
    crowd = ⟨crowd.state, [.done first, .done second]⟩ := by
  obtain ⟨state, parties⟩ := crowd
  unfold outcome? at both
  split at both
  · rename_i parties_eq
    cases both
    exact congrArg (Crowd.mk state) parties_eq
  · cases both

namespace Program

variable {around : Surroundings σ} {shared : σ → ρ → κ → Prop}

/-- The work goes on from its record such that `shared` holds after each of its moments, whatever
the state and the record of the other party are, as long as `shared` holds before. It is never given
up, and `goal` holds of its value and of its last record. -/
def Guards (around : Surroundings σ) (shared : σ → ρ → κ → Prop) (goal : α → ρ → Prop) :
    Program σ α → ρ → Prop
  | .done value, mine => goal value mine
  | .crash, mine => ∀ state others, ¬shared state mine others
  | .act change next, mine => ∀ state others, shared state mine others →
      ∃ later, shared (change state) later others ∧ (next state).Guards around shared goal later
  | .pause wake next, mine => ∀ state others, shared state mine others →
      wake.isOver around.now state = true →
        ∃ later, shared state later others ∧ next.Guards around shared goal later
  | .mark next, mine => next.Guards around shared goal mine

namespace Guards

variable {goal : α → ρ → Prop} {mine : ρ}

theorem mono {weaker : α → ρ → Prop} {work : Program σ α}
    (guards : work.Guards around shared goal mine)
    (implies : ∀ value later, goal value later → weaker value later) :
    work.Guards around shared weaker mine := by
  induction work generalizing mine with
  | done value => exact implies value mine guards
  | crash => exact guards
  | act change next ih =>
    intro state others holds
    obtain ⟨later, still, rest⟩ := guards state others holds
    exact ⟨later, still, ih state rest⟩
  | pause wake next ih =>
    intro state others holds woken
    obtain ⟨later, still, rest⟩ := guards state others holds woken
    exact ⟨later, still, ih rest⟩
  | mark next ih => exact ih guards

/-- One piece of work after the other: the second goes on with the record that the first leaves. -/
theorem bind {work : Program σ α} {next : α → Program σ β} {goal : β → ρ → Prop}
    (guards : work.Guards around shared
      (fun value later => (next value).Guards around shared goal later) mine) :
    (work.bind next).Guards around shared goal mine := by
  induction work generalizing mine with
  | done value => exact guards
  | crash => exact guards
  | act change next ih =>
    intro state others holds
    obtain ⟨later, still, rest⟩ := guards state others holds
    exact ⟨later, still, ih state rest⟩
  | pause wake next ih =>
    intro state others holds woken
    obtain ⟨later, still, rest⟩ := guards state others holds woken
    exact ⟨later, still, ih rest⟩
  | mark next ih => exact ih guards

/-- Work with a change at its end. -/
theorem ending {cleanup : σ → σ} {work : Program σ α}
    (guards : work.Guards around shared (fun value held =>
      ∀ state others, shared state held others →
        ∃ later, shared (cleanup state) later others ∧ goal value later) mine) :
    (work.ending cleanup).Guards around shared goal mine := by
  induction work generalizing mine with
  | done value => exact guards
  | crash => exact fun state others holds => absurd holds (guards state others)
  | act change next ih =>
    intro state others holds
    obtain ⟨later, still, rest⟩ := guards state others holds
    exact ⟨later, still, ih state rest⟩
  | pause wake next ih =>
    intro state others holds woken
    obtain ⟨later, still, rest⟩ := guards state others holds woken
    exact ⟨later, still, ih rest⟩
  | mark next ih => exact ih guards

theorem modify {goal : Unit → ρ → Prop} {change : σ → σ}
    (keeps : ∀ state others, shared state mine others →
      ∃ later, shared (change state) later others ∧ goal () later) :
    (modify change).Guards around shared goal mine := keeps

theorem perform {action : σ → α × σ}
    (keeps : ∀ state others, shared state mine others →
      ∃ later, shared (action state).2 later others ∧ goal (action state).1 later) :
    (perform action).Guards around shared goal mine := keeps

theorem get {goal : σ → ρ → Prop}
    (keeps : ∀ state others, shared state mine others →
      ∃ later, shared state later others ∧ goal state later) :
    (get : Program σ σ).Guards around shared goal mine := keeps

/-- A look at the state that is of no consequence to the record. -/
theorem look {goal : σ → ρ → Prop} (holds : ∀ state, goal state mine) :
    (Program.get : Program σ σ).Guards around shared goal mine :=
  get fun state _ still => ⟨mine, still, holds state⟩

theorem sleepUntil {goal : Unit → ρ → Prop} {moment : Nat} (holds : goal () mine) :
    (sleepUntil moment : Program σ Unit).Guards around shared goal mine :=
  fun _ _ still _ => ⟨mine, still, holds⟩

/-- Whoever waits for a state to be ready may note that it was. -/
theorem waitFor {ready : σ → Bool} {goal : Unit → ρ → Prop}
    (admits : ∀ state others, shared state mine others → ready state = true →
      ∃ later, shared state later others ∧ goal () later) :
    (waitFor ready).Guards around shared goal mine := by
  intro state others holds
  dsimp only
  cases isReady : ready state with
  | true => exact admits state others holds isReady
  | false =>
    refine ⟨mine, holds, fun state others holds woken => admits state others holds ?_⟩
    simpa [Wake.isOver] using woken

end Guards

end Program

/-- In every crowd that comes of two parties who keep their records, both still do, and their
records fit the state. -/
theorem Crowd.Becomes.guarded {around : Surroundings σ} {shared : σ → ρ → κ → Prop}
    {first second : Program σ α} {firstGoal : α → ρ → Prop} {secondGoal : α → κ → Prop}
    {one : ρ} {other : κ} {start : σ} {crowd : Crowd σ α}
    (becomes : Becomes around ⟨start, [first, second]⟩ crowd)
    (begins : shared start one other)
    (firstGuards : first.Guards around shared firstGoal one)
    (secondGuards : second.Guards around (fun state mine others => shared state others mine)
      secondGoal other)
    (outside : ∀ before after one other, around.changes before after →
      shared before one other → shared after one other) :
    ∃ one other first second, crowd.parties = [first, second] ∧ shared crowd.state one other ∧
      first.Guards around shared firstGoal one ∧
      second.Guards around (fun state mine others => shared state others mine) secondGoal
        other := by
  induction becomes with
  | start => exact ⟨one, other, first, second, rfl, begins, firstGuards, secondGuards⟩
  | @step before after _ step ih =>
    obtain ⟨one, other, first, second, parties, holds, firstGuards, secondGuards⟩ := ih
    -- A place in a crowd of two is the first or the second.
    have places : ∀ {place : Nat} {work : Program σ α}, [first, second][place]? = some work →
        (place = 0 ∧ work = first) ∨ (place = 1 ∧ work = second) := by
      intro place work here
      match place, here with
      | 0, here => exact .inl ⟨rfl, (Option.some.inj here).symm⟩
      | 1, here => exact .inr ⟨rfl, (Option.some.inj here).symm⟩
    cases step with
    | act here =>
      obtain rfl : _ = _ := parties
      rcases places here with ⟨rfl, rfl⟩ | ⟨rfl, rfl⟩
      · obtain ⟨later, still, rest⟩ := firstGuards _ _ holds
        exact ⟨later, other, _, second, rfl, still, rest, secondGuards⟩
      · obtain ⟨later, still, rest⟩ := secondGuards _ _ holds
        exact ⟨one, later, first, _, rfl, still, firstGuards, rest⟩
    | resume here woken =>
      obtain rfl : _ = _ := parties
      rcases places here with ⟨rfl, rfl⟩ | ⟨rfl, rfl⟩
      · obtain ⟨later, still, rest⟩ := firstGuards _ _ holds woken
        exact ⟨later, other, _, second, rfl, still, rest, secondGuards⟩
      · obtain ⟨later, still, rest⟩ := secondGuards _ _ holds woken
        exact ⟨one, later, first, _, rfl, still, firstGuards, rest⟩
    | mark here =>
      obtain rfl : _ = _ := parties
      rcases places here with ⟨rfl, rfl⟩ | ⟨rfl, rfl⟩
      · exact ⟨one, other, _, second, rfl, holds, firstGuards, secondGuards⟩
      · exact ⟨one, other, first, _, rfl, holds, firstGuards, secondGuards⟩
    | join admitted => exact admitted.elim
    | outside change =>
      exact ⟨one, other, first, second, parties, outside _ _ one other change holds, firstGuards,
        secondGuards⟩

/-- How a party stands to a gate. -/
inductive Pass
  | away
  | waiting (ticket : Nat)
  | inside

/-- The ticket that a party holds of a gate. -/
def Pass.ticket (turnstile : Turnstile) : Pass → Option Nat
  | away => none
  | waiting ticket => some ticket
  | inside => some turnstile.served

/-- The tickets of two parties were issued, and are not the same. -/
structure Passes (turnstile : Turnstile) (one other : Pass) : Prop where
  first : ∀ ticket, one.ticket turnstile = some ticket → ticket < turnstile.issued
  second : ∀ ticket, other.ticket turnstile = some ticket → ticket < turnstile.issued
  apart : ∀ ticket, one.ticket turnstile = some ticket → other.ticket turnstile ≠ some ticket

namespace Passes

variable {turnstile : Turnstile} {one other : Pass}

theorem symm (passes : Passes turnstile one other) : Passes turnstile other one :=
  ⟨passes.second, passes.first, fun ticket holds also => passes.apart ticket also holds⟩

/-- Two parties are never inside together. -/
theorem alone (passes : Passes turnstile .inside other) : other ≠ .inside := by
  rintro rfl
  exact passes.apart _ rfl rfl

theorem enter (passes : Passes turnstile .away other) :
    Passes turnstile.enter (.waiting turnstile.issued) other := by
  have same : other.ticket turnstile.enter = other.ticket turnstile := by cases other <;> rfl
  refine ⟨?_, fun ticket holds => ?_, ?_⟩
  · rintro _ ⟨⟩
    exact Nat.lt_succ_self _
  · exact Nat.lt_succ_of_lt (passes.second ticket (same ▸ holds))
  · rintro _ ⟨⟩ holds
    exact Nat.lt_irrefl _ (passes.second _ (same ▸ holds))

/-- Whoever's ticket is served is inside. -/
theorem admitted {ticket : Nat} (passes : Passes turnstile (.waiting ticket) other)
    (served : turnstile.served = ticket) : Passes turnstile .inside other := by
  subst served
  exact ⟨passes.first, passes.second, passes.apart⟩

theorem leave (passes : Passes turnstile .inside other) :
    Passes turnstile.leave .away other := by
  refine ⟨nofun, ?_, nofun⟩
  cases other with
  | away => exact nofun
  | waiting ticket => exact passes.second
  | inside => exact absurd rfl passes.alone

end Passes
end ClusterPool
