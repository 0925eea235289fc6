import ClusterPool.Proofs.Program.Crowd

/-! The values with which the parties of a crowd come to their ends, in the order in which they do.
If every moment of every party is known to do nothing that matters, or to end the work with a value
that tells what the moment did, then a chronicle of these values tells what has become of the
state. -/
namespace ClusterPool

namespace Program

/-- The value of work that is done. -/
def value? : Program σ α → Option α
  | .done value => some value
  | _ => none

section
variable (silent : σ → σ → Prop) (final : α → σ → σ → Prop)

/-- What may happen at a moment after which this is left to do: what is said of the value if the
moment was the last one, and nothing that matters otherwise. -/
def Concludes (rest : Program σ α) (before after : σ) : Prop :=
  match rest.value? with
  | some value => final value before after
  | none => silent before after

/-- Each moment of the work that is not its last does nothing that matters, whatever comes between
its moments, and the last one does what is said of the value. -/
def Settles : Program σ α → Prop
  | .done _ | .crash => True
  | .act change next => ∀ state,
    (next state).Concludes silent final state (change state) ∧ (next state).Settles
  | .pause _ next | .mark next => (∀ state, next.Concludes silent final state state) ∧ next.Settles

end

variable {silent : σ → σ → Prop} {final : α → σ → σ → Prop}

/-- A moment that does nothing that matters, of work that in the end says so. -/
theorem concludes_silently {value : α} (rest : Program σ β) {before after : σ}
    (quiet : silent before after) (nothing : silent before after → final value before after) :
    (rest.bind fun _ => done value).Concludes silent final before after := by
  cases rest with
  | done _ => exact nothing quiet
  | crash | act | pause | mark => exact quiet

/-- Work that does nothing that matters, and in the end says so. -/
theorem Within.settles {work : Program σ β} {value : α} (within : work.Within silent)
    (still : ∀ state, silent state state)
    (nothing : ∀ before after, silent before after → final value before after) :
    (∀ state, (work.bind fun _ => done value).Concludes silent final state state) ∧
      (work.bind fun _ => done value).Settles silent final := by
  refine ⟨fun state => concludes_silently work (still state) (nothing state state), ?_⟩
  induction work with
  | done | crash => trivial
  | act change next ih =>
    exact fun state =>
      ⟨concludes_silently (next state) (within state).1 (nothing _ _), ih state (within state).2⟩
  | pause wake next ih =>
    exact ⟨fun state => concludes_silently next (still state) (nothing _ _), ih within⟩
  | mark next ih =>
    exact ⟨fun state => concludes_silently next (still state) (nothing _ _), ih within⟩

/-- The values of those that are done in the second list and are not, at their places, in the
first. -/
def news : List (Program σ α) → List (Program σ α) → List α
  | _, [] => []
  | [], newcomer :: later => newcomer.value?.toList ++ news [] later
  | old :: before, new :: after =>
    (if old.value?.isSome then [] else new.value?.toList) ++ news before after

@[simp] theorem news_self (parties : List (Program σ α)) : news parties parties = [] := by
  induction parties with
  | nil => rfl
  | cons first rest ih => cases ended : first.value? <;> simp [news, ended, ih]

theorem news_join (parties : List (Program σ α)) (newcomer : Program σ α) :
    news parties (parties ++ [newcomer]) = newcomer.value?.toList := by
  induction parties with
  | nil => simp [news]
  | cons first rest ih => cases ended : first.value? <;> simp [news, ended, ih]

theorem news_set {parties : List (Program σ α)} {place : Nat} {old : Program σ α}
    (here : parties[place]? = some old) (going : old.value? = none) (new : Program σ α) :
    news parties (parties.set place new) = new.value?.toList := by
  induction parties generalizing place with
  | nil => cases here
  | cons first rest ih =>
    cases place with
    | zero =>
      cases here
      simp [news, going]
    | succ place =>
      have others := ih (by simpa using here)
      cases ended : first.value? <;> simp [news, ended, others]

theorem values_set {parties : List (Program σ α)} {place : Nat} {old : Program σ α}
    (here : parties[place]? = some old) (going : old.value? = none) (new : Program σ α) :
    (parties.filterMap value? ++ new.value?.toList).Perm
      ((parties.set place new).filterMap value?) := by
  induction parties generalizing place with
  | nil => cases here
  | cons first rest ih =>
    cases place with
    | zero =>
      cases here
      cases ended : new.value? <;> simp [going, ended, List.perm_append_singleton]
    | succ place =>
      have others := ih (by simpa using here)
      cases ended : first.value? <;> simp [ended, others]

end Program

namespace Crowd
open Program

variable {around : Surroundings σ} {admits : Program σ α → Prop} {silent : σ → σ → Prop}
  {final : α → σ → σ → Prop}

/-- A crowd that has come of a state, with the values of all that are done by now, in the order in
which they came to their ends. -/
inductive Chronicle (around : Surroundings σ) (admits : Program σ α → Prop) (start : σ) :
    List α → Crowd σ α → Prop
  | start : Chronicle around admits start [] ⟨start, []⟩
  | step {told : List α} {before after : Crowd σ α}
      (chronicle : Chronicle around admits start told before)
      (step : Step around admits before after) :
      Chronicle around admits start (told ++ news before.parties after.parties) after

theorem Chronicle.reached {start : σ} {told : List α} {crowd : Crowd σ α}
    (chronicle : Chronicle around admits start told crowd) :
    Reached around admits start crowd := by
  induction chronicle with
  | start => exact .start
  | step _ step reached => exact reached.step step

/-- There is no news when the state changes from outside. -/
theorem Chronicle.outside {start before after : σ} {told : List α} {parties : List (Program σ α)}
    (chronicle : Chronicle around admits start told ⟨before, parties⟩)
    (change : around.changes before after) :
    Chronicle around admits start told ⟨after, parties⟩ := by
  have next := chronicle.step (.outside change)
  rwa [news_self, List.append_nil] at next

/-- There is no news of a newcomer that has something to do. -/
theorem Chronicle.join {start state : σ} {told : List α} {parties : List (Program σ α)}
    {work : Program σ α} (chronicle : Chronicle around admits start told ⟨state, parties⟩)
    (admitted : admits work) (going : work.value? = none) :
    Chronicle around admits start told ⟨state, parties ++ [work]⟩ := by
  have next := chronicle.step (.join admitted)
  rwa [news_join, going, Option.toList_none, List.append_nil] at next

/-- What there is news of at one moment is what the one party has to say whose moment it was. -/
theorem Step.values {before after : Crowd σ α} (step : Step around admits before after) :
    (before.parties.filterMap value? ++ news before.parties after.parties).Perm
      (after.parties.filterMap value?) := by
  cases step with
  | act here =>
    rw [news_set here rfl]
    exact values_set here rfl _
  | resume here =>
    rw [news_set here rfl]
    exact values_set here rfl _
  | mark here =>
    rw [news_set here rfl]
    exact values_set here rfl _
  | @join _ _ work _ =>
    rw [news_join]
    cases ended : work.value? <;> simp [ended]
  | outside => simp

/-- A chronicle tells the values of all that are done, and no others. -/
theorem Chronicle.complete {start : σ} {told : List α} {crowd : Crowd σ α}
    (chronicle : Chronicle around admits start told crowd) :
    told.Perm (crowd.parties.filterMap value?) := by
  induction chronicle with
  | start => exact .refl _
  | step _ step told => exact (told.append_right _).trans step.values

/-- Each moment of a crowd is silent, comes from outside, or is the last one of a party whose value
tells what it did. -/
theorem Step.settles {before after : Crowd σ α} (step : Step around admits before after)
    (newcomers : ∀ work, admits work →
      (∀ state, work.Concludes silent final state state) ∧ work.Settles silent final)
    (settles : ∀ work ∈ before.parties, work.Settles silent final) :
    (∀ work ∈ after.parties, work.Settles silent final) ∧
      ((∃ value, news before.parties after.parties = [value] ∧
          final value before.state after.state) ∨
        (news before.parties after.parties = [] ∧
          (silent before.state after.state ∨ around.changes before.state after.state))) := by
  -- What a party leaves to do decides whether there is news of it.
  have tells : ∀ {rest : Program σ α} {earlier later : σ}, rest.Concludes silent final earlier later →
      (∃ value, rest.value?.toList = [value] ∧ final value earlier later) ∨
        (rest.value?.toList = [] ∧ (silent earlier later ∨ around.changes earlier later)) := by
    intro rest earlier later concludes
    unfold Concludes at concludes
    split at concludes
    · rename_i value ended
      exact .inl ⟨value, by rw [ended]; rfl, concludes⟩
    · rename_i going
      exact .inr ⟨by rw [going]; rfl, .inl concludes⟩
  have others : ∀ {rest : Program σ α} {place : Nat}, rest.Settles silent final →
      ∀ work ∈ before.parties.set place rest, work.Settles silent final := by
    intro rest place settled work member
    rcases List.mem_or_eq_of_mem_set member with earlier | rfl
    · exact settles work earlier
    · exact settled
  cases step with
  | @act state _ _ _ _ here =>
    obtain ⟨concludes, settled⟩ := settles _ (List.mem_of_getElem? here) state
    rw [news_set here rfl]
    exact ⟨others settled, tells concludes⟩
  | @resume state _ _ _ _ here =>
    obtain ⟨concludes, settled⟩ := settles _ (List.mem_of_getElem? here)
    rw [news_set here rfl]
    exact ⟨others settled, tells (concludes state)⟩
  | @mark state _ _ _ here =>
    obtain ⟨concludes, settled⟩ := settles _ (List.mem_of_getElem? here)
    rw [news_set here rfl]
    exact ⟨others settled, tells (concludes state)⟩
  | @join state _ work admitted =>
    obtain ⟨concludes, settled⟩ := newcomers work admitted
    rw [news_join]
    refine ⟨fun other member => ?_, tells (concludes state)⟩
    rcases List.mem_append.mp member with earlier | new
    · exact settles other earlier
    · exact List.mem_singleton.mp new ▸ settled
  | outside change => exact ⟨settles, .inr ⟨news_self _, .inr change⟩⟩

/-- What holds of the token and of the state when a party comes to its end with a value. -/
theorem Kept.ended {rules : Discipline around τ} {goal : α → τ → σ → Prop} {dropped : τ → σ → Prop}
    {crowd : Crowd σ α} {tokens : List τ} (kept : Kept rules goal dropped crowd tokens) {value : α}
    (member : value ∈ crowd.parties.filterMap value?) : ∃ token, goal value token crowd.state := by
  obtain ⟨work, inside, ended⟩ := List.mem_filterMap.mp member
  obtain ⟨place, here⟩ := List.mem_iff_getElem?.mp inside
  obtain ⟨token, holds⟩ := kept.token here
  have isDone : work = done value := by
    cases work with
    | done other => exact congrArg done (Option.some.inj ended)
    | crash | act | pause | mark => cases ended
  have keeps := kept.keeps here holds
  rw [isDone] at keeps
  exact ⟨token, keeps _ (rules.rely_refl _ _)⟩

/-- What can be said of a state by the values that were told on the way to it: it holds at first, no
silent moment and no change from outside puts an end to it, and each party that comes to its end
adds what its value tells. -/
theorem Chronicle.accounts {rules : Discipline around τ} {goal : α → τ → σ → Prop}
    {dropped : τ → σ → Prop} {start : σ} {told : List α} {crowd : Crowd σ α}
    (chronicle : Chronicle around admits start told crowd) (claim : List α → σ → Prop)
    (keep : ∀ work, admits work → ∀ state, work.Keeps rules goal dropped rules.fresh state)
    (settle : ∀ work, admits work →
      (∀ state, work.Concludes silent final state state) ∧ work.Settles silent final)
    (lawful : rules.lawful start) (assigned : rules.assigned start []) (begins : claim [] start)
    (goesOn : ∀ told before after, silent before after ∨ around.changes before after →
      claim told before → claim told after)
    (ends : ∀ told value token before after, final value before after → goal value token after →
      claim told before → claim (told ++ [value]) after) :
    claim told crowd.state := by
  suffices together : (∃ tokens, Kept rules goal dropped crowd tokens) ∧
      (∀ work ∈ crowd.parties, work.Settles silent final) ∧ claim told crowd.state from
    together.2.2
  induction chronicle with
  | start => exact ⟨⟨[], rfl, lawful, assigned, by simp⟩, by simp, begins⟩
  | @step told before after _ step ih =>
    obtain ⟨⟨_, kept⟩, settles, claimed⟩ := ih
    obtain ⟨⟨tokens, kept⟩, _⟩ := step.kept keep kept
    obtain ⟨settles, concludes⟩ := step.settles settle settles
    refine ⟨⟨tokens, kept⟩, settles, ?_⟩
    rcases concludes with ⟨value, told, said⟩ | ⟨nothing, quiet⟩
    · have member : value ∈ after.parties.filterMap value? :=
        step.values.subset (by simp [told])
      obtain ⟨token, reached⟩ := kept.ended member
      rw [told]
      exact ends _ _ token _ _ said reached claimed
    · rw [nothing, List.append_nil]
      exact goesOn _ _ _ quiet claimed

/-- The party at this place goes on for so many moments, while it is told who is done. -/
def follow (around : Surroundings σ) (place : Nat) :
    Nat → List α × Crowd σ α → List α × Crowd σ α
  | 0, run => run
  | moments + 1, (told, crowd) =>
    let after := crowd.advance around place
    follow around place moments (told ++ news crowd.parties after.parties, after)

theorem Chronicle.follow {start : σ} {run : List α × Crowd σ α}
    (chronicle : Chronicle around admits start run.1 run.2) (place moments : Nat) :
    Chronicle around admits start (Crowd.follow around place moments run).1
      (Crowd.follow around place moments run).2 := by
  induction moments generalizing run with
  | zero => exact chronicle
  | succ moments ih =>
    apply ih _
    rcases run.2.advance_steps place with step | same
    · exact chronicle.step step
    · dsimp only
      rw [same, news_self, List.append_nil]
      exact chronicle

end Crowd
end ClusterPool
