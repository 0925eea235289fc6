import ClusterPool.Program

/-! How far a piece of work has come. It goes on in stretches, from one pause to the next, and what
each of them found and what it left tells which work was done. -/
namespace ClusterPool.Program

variable {now : σ → Nat}

/-- How far the work comes from a state before it pauses or is over, and what it leaves. -/
def stretch (work : Program σ α) (state : σ) : Standing σ α × σ :=
  let (standing, after, _) := work.advance (fun _ noted => noted) state ()
  (standing, after)

/-- An onlooker makes no difference to the work. -/
theorem advance_stretch (note : σ → ω → ω) (work : Program σ α) (state : σ) (noted : ω) :
    work.stretch state =
      ((work.advance note state noted).1, (work.advance note state noted).2.1) := by
  induction work generalizing state noted with
  | done | crash | pause => rfl
  | act change next ih => exact ih _ _ _
  | mark next ih => exact ih _ _

/-- However work goes on, it comes to finitely many pauses, as what is left of it after each of them
is a part of it. -/
theorem pauses_end {motive : Paused σ α → Prop}
    (step : ∀ paused : Paused σ α, (∀ state rest, (paused.next.stretch state).1 = .paused rest →
      motive rest) → motive paused) (paused : Paused σ α) : motive paused := by
  have parts : ∀ (work : Program σ α) state rest, (work.stretch state).1 = .paused rest →
      motive rest := by
    intro work
    induction work with
    | done | crash => nofun
    | act change next ih => exact fun state => ih state (change state)
    | pause wake next ih =>
      rintro state rest ⟨⟩
      exact step ⟨wake, next⟩ ih
    | mark next ih => exact ih
  exact step paused (parts paused.next)

/-- The work has come so far in these stretches, and stands so: each of them went on where the one
before had paused, once that pause was over. -/
inductive Comes (now : σ → Nat) (work : Program σ α) : List (σ × σ) → Standing σ α → Prop
  | first {before after : σ} {standing : Standing σ α}
      (goes : work.stretch before = (standing, after)) : Comes now work [(before, after)] standing
  | next {stretches : List (σ × σ)} {rest : Paused σ α} {before after : σ}
      {standing : Standing σ α} (earlier : Comes now work stretches (.paused rest))
      (woken : rest.wake.isOver now before = true)
      (goes : rest.next.stretch before = (standing, after)) :
      Comes now work (stretches ++ [(before, after)]) standing

/-- The work has come to its end. -/
def Standing.isFinished : Standing σ α → Bool
  | .finished _ => true
  | .crashed | .paused _ => false

/-- The same without the value. -/
def Standing.dropValue : Standing σ α → Standing σ Unit
  | .finished _ => .finished ()
  | .crashed => .crashed
  | .paused rest => .paused ⟨rest.wake, rest.next.bind fun _ => .done ()⟩

theorem Standing.isFinished_dropValue (standing : Standing σ α) :
    standing.dropValue.isFinished = standing.isFinished := by
  cases standing <;> rfl

/-- Work whose value is dropped goes the same way. -/
theorem stretch_dropValue (work : Program σ α) (state : σ) :
    (work.bind fun _ => .done ()).stretch state =
      ((work.stretch state).1.dropValue, (work.stretch state).2) := by
  induction work generalizing state with
  | done | crash | pause => rfl
  | act change next ih => exact ih _ _
  | mark next ih => exact ih _

theorem Comes.of_dropValue {work : Program σ α} {stretches : List (σ × σ)}
    {standing : Standing σ Unit}
    (comes : Comes now (work.bind fun _ => .done ()) stretches standing) :
    ∃ former, Comes now work stretches former ∧ standing = former.dropValue := by
  induction comes with
  | @first before after standing goes =>
    rw [stretch_dropValue] at goes
    obtain ⟨rfl, rfl⟩ := Prod.mk.inj goes
    exact ⟨_, .first rfl, rfl⟩
  | @next stretches rest before after standing earlier woken goes ih =>
    obtain ⟨former, came, same⟩ := ih
    cases former with
    | finished | crashed => cases same
    | paused former =>
      cases same
      rw [stretch_dropValue] at goes
      obtain ⟨rfl, rfl⟩ := Prod.mk.inj goes
      exact ⟨_, .next came woken rfl, rfl⟩

end ClusterPool.Program
