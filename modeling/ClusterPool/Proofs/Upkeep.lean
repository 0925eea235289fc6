import ClusterPool.Upkeep

/-! When a background task has its turns. Both of its intervals are treated alike: what is due by now
can be taken in any order, and a turn that is taken at the millisecond at which it is due is due
again one interval later. -/
namespace ClusterPool.Upkeep

/-- When a turn is due, in nanoseconds. The last turn is due at any time. -/
def due (upkeep : Upkeep) : Turn → Nat
  | .stop => 0
  | .reload => upkeep.reloadDue
  | .reclaim => upkeep.reclaimDue

/-- The interval of a turn. -/
def every (upkeep : Upkeep) : Turn → Duration
  | .stop => .zero
  | .reload => upkeep.reloadEvery
  | .reclaim => upkeep.reclaimEvery

variable {upkeep : Upkeep} {now : Nat} {turn : Turn}

theorem stop_mem_turns : .stop ∈ upkeep.turns now ↔ upkeep.dismissed = true := by
  simp [turns]

theorem mem_turns (works : turn ≠ .stop) :
    turn ∈ upkeep.turns now ↔ upkeep.due turn ≤ now * 1000000 := by
  cases turn with
  | stop => exact absurd rfl works
  | reload | reclaim => simp [turns, due]

/-- A task that has nothing to do was not asked to end, and none of its turns is due. -/
theorem turns_eq_nil_iff : upkeep.turns now = [] ↔
    upkeep.dismissed = false ∧ ∀ turn, turn ≠ .stop → now * 1000000 < upkeep.due turn := by
  rw [List.eq_nil_iff_forall_not_mem]
  constructor
  · intro none
    exact ⟨Bool.eq_false_iff.mpr fun dismissed => none _ (stop_mem_turns.mpr dismissed),
      fun turn works => Nat.lt_of_not_le fun late => none turn ((mem_turns works).mpr late)⟩
  · rintro ⟨stays, early⟩ turn member
    by_cases last : turn = .stop
    · rw [stop_mem_turns.mp (last ▸ member)] at stays
      cases stays
    · exact Nat.not_le_of_lt (early turn last) ((mem_turns last).mp member)

/-- No turn is due before the task wakes, if turns are due at whole milliseconds. -/
theorem wakesAt_le (works : turn ≠ .stop) {moment : Nat} (whole : upkeep.due turn = moment * 1000000) :
    upkeep.wakesAt ≤ moment := by
  unfold wakesAt
  cases turn with
  | stop => exact absurd rfl works
  | reload | reclaim =>
    simp only [due] at whole
    omega

/-- A turn that is taken in time is due again after its interval. -/
theorem nextDue_of_whole {moment : Nat} {span : Duration} (inTime : now ≤ moment) :
    nextDue (moment * 1000000) now span = moment * 1000000 + span.toNanos := by
  rw [nextDue, if_neg (by omega)]

section
variable (works : turn ≠ .stop)
include works

theorem take_phase : (upkeep.take now turn).phase = .busy := by
  cases turn with
  | stop => exact absurd rfl works
  | reload | reclaim => rfl

/-- Only the turn that is taken is put off. -/
theorem take_due (other : Turn) : (upkeep.take now turn).due other =
    if other = turn then nextDue (upkeep.due turn) now (upkeep.every turn) else upkeep.due other := by
  cases turn with
  | stop => exact absurd rfl works
  | reload | reclaim => cases other <;> rfl

end

@[simp] theorem take_every (other : Turn) : (upkeep.take now turn).every other = upkeep.every other := by
  cases turn <;> cases other <;> rfl

@[simp] theorem take_dismissed : (upkeep.take now turn).dismissed = upkeep.dismissed := by
  cases turn <;> rfl

/-- A task is lost at its first turn if it has an interval that cannot be told. -/
theorem begin_phase :
    (upkeep.begin now).phase = if upkeep.tells now = true then .idle else .lost := by
  unfold begin
  split <;> rfl

/-- A task whose intervals can be told waits for both of them. -/
theorem begin_due (tells : upkeep.tells now = true) (works : turn ≠ .stop) :
    (upkeep.begin now).due turn = now * 1000000 + (upkeep.every turn).toNanos := by
  rw [begin, if_pos tells]
  cases turn with
  | stop => exact absurd rfl works
  | reload | reclaim => rfl

@[simp] theorem begin_every (turn : Turn) : (upkeep.begin now).every turn = upkeep.every turn := by
  unfold begin
  split <;> cases turn <;> rfl

@[simp] theorem begin_dismissed : (upkeep.begin now).dismissed = upkeep.dismissed := by
  unfold begin
  split <;> rfl

theorem isOver_iff : upkeep.isOver = true ↔ upkeep.phase = .ended ∨ upkeep.phase = .lost := by
  rw [isOver, Bool.or_eq_true, decide_eq_true_iff, decide_eq_true_iff]

@[simp] theorem take_uptime : (upkeep.take now turn).uptime = upkeep.uptime := by
  cases turn <;> rfl

@[simp] theorem begin_uptime : (upkeep.begin now).uptime = upkeep.uptime := by
  unfold begin
  split <;> rfl

/-- What can be told depends on the intervals and on the clock of the platform alone. -/
theorem tells_congr {other : Upkeep} (same : ∀ turn, other.every turn = upkeep.every turn)
    (uptime : other.uptime = upkeep.uptime) : other.tells now = upkeep.tells now := by
  have reloads : other.reloadEvery = upkeep.reloadEvery := same .reload
  have reclaims : other.reclaimEvery = upkeep.reclaimEvery := same .reclaim
  rw [tells, tells, reloads, reclaims, uptime]

/-- An interval that can be told now could be told before. -/
theorem canTell_mono {reading later : Nat} {ahead : Duration} (before : reading ≤ later)
    (tells : canTell later ahead = true) : canTell reading ahead = true := by
  simp only [canTell, decide_eq_true_eq] at tells ⊢
  omega

theorem tells_mono {later : Nat} (before : now ≤ later) (tells : upkeep.tells later = true) :
    upkeep.tells now = true := by
  have reading : upkeep.uptime + now * 1000000 ≤ upkeep.uptime + later * 1000000 := by omega
  rw [Upkeep.tells, Bool.and_eq_true] at tells ⊢
  exact ⟨canTell_mono reading tells.1, canTell_mono reading tells.2⟩

/-- An interval that takes some time has some nanoseconds. -/
theorem isUsable_iff : upkeep.isUsable = true ↔
    ∀ turn, turn ≠ .stop → (upkeep.every turn).toNanos ≠ 0 := by
  have zero : ∀ span : Duration, span.isZero = true ↔ span.toNanos = 0 := by
    rintro ⟨seconds, nanos⟩
    simp only [Duration.isZero, Duration.zero, Duration.toNanos, decide_eq_true_eq,
      Duration.mk.injEq, ← UInt64.toNat_inj, Fin.ext_iff]
    exact ⟨fun ⟨noSeconds, noNanos⟩ => by simp [noSeconds, noNanos], fun none => by
      constructor <;> simp <;> omega⟩
  rw [isUsable, Bool.and_eq_true, Bool.not_eq_true', Bool.not_eq_true', ← Bool.not_eq_true,
    ← Bool.not_eq_true, zero, zero]
  constructor
  · rintro ⟨reloads, reclaims⟩ (_ | _ | _) works
    · exact absurd rfl works
    · exact reloads
    · exact reclaims
  · exact fun positive => ⟨positive .reload (by simp), positive .reclaim (by simp)⟩

end ClusterPool.Upkeep
