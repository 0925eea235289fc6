import ClusterPool.Proofs.Upkeep

/-! The turns of one background task, on a sheet that a watcher keeps. While turns take no time, every
millisecond at which one is due is the millisecond at which it is taken, whichever of several turns
that are due at once comes first, and until the task is asked to end. -/
namespace ClusterPool

/-- A turn that a task took, when it began with it, and when it was done with it. -/
structure Shift where
  turn : Turn
  begun : Nat
  ended : Option Nat
  deriving DecidableEq

/-- What is known of a task at a time: how it stands, the turns that it took, the latest first, and
when it was first asked to end. -/
structure Timesheet where
  upkeep : Upkeep
  now : Nat
  shifts : List Shift := []
  asked : Option Nat := none

namespace Timesheet

/-- How a task stands that was at work in its latest turn: done with it, or still at it, or lost
in it. -/
inductive Leaves (now : Nat) : UpkeepPhase → Option Nat → Prop
  | done : Leaves now .idle (some now)
  | pauses : Leaves now .busy none
  | fails : Leaves now .lost none

/-- What can happen to a task. Time passes while it has nothing to do, up to its next turn, and
however long it pauses in one. -/
inductive Step : Timesheet → Timesheet → Prop
  | still {sheet : Timesheet} : Step sheet sheet
  | dismiss {sheet : Timesheet} : Step sheet { sheet with
      upkeep := { sheet.upkeep with dismissed := true }, asked := sheet.asked.or (some sheet.now) }
  | begin {sheet : Timesheet} (unborn : sheet.upkeep.phase = .unborn) :
      Step sheet { sheet with upkeep := sheet.upkeep.begin sheet.now }
  | stop {sheet : Timesheet} (idle : sheet.upkeep.phase = .idle)
      (due : .stop ∈ sheet.upkeep.turns sheet.now) :
      Step sheet { sheet with upkeep := sheet.upkeep.take sheet.now .stop }
  | work {sheet : Timesheet} {turn : Turn} {phase : UpkeepPhase} {ended : Option Nat}
      (works : turn ≠ .stop) (idle : sheet.upkeep.phase = .idle)
      (due : turn ∈ sheet.upkeep.turns sheet.now) (leaves : Leaves sheet.now phase ended) :
      Step sheet { sheet with
        upkeep := { sheet.upkeep.take sheet.now turn with phase }
        shifts := ⟨turn, sheet.now, ended⟩ :: sheet.shifts }
  | resume {sheet : Timesheet} {shift : Shift} {earlier : List Shift} {phase : UpkeepPhase}
      {ended : Option Nat} (busy : sheet.upkeep.phase = .busy)
      (latest : sheet.shifts = shift :: earlier) (leaves : Leaves sheet.now phase ended) :
      Step sheet { sheet with
        upkeep := { sheet.upkeep with phase }, shifts := { shift with ended } :: earlier }
  | wait {sheet : Timesheet} {moment : Nat} (later : sheet.now ≤ moment)
      (born : sheet.upkeep.phase ≠ .unborn)
      (rests : sheet.upkeep.phase = .idle →
        sheet.upkeep.turns sheet.now = [] ∧ moment ≤ sheet.upkeep.wakesAt) :
      Step sheet { sheet with now := moment }

/-- When a task took turns of one kind, in their order. -/
def times (turn : Turn) (shifts : List Shift) : List Nat :=
  ((shifts.filter fun shift => shift.turn = turn).map (·.begun)).reverse

/-- The first so many ends of an interval that is repeated from a start on. -/
def timetable (start every count : Nat) : List Nat :=
  (List.range count).map fun earlier => start + (earlier + 1) * every

/-- The time up to which a task has to take its turns. -/
def horizon (sheet : Timesheet) : Nat := sheet.asked.getD sheet.now

/-- Every turn was over when it began, or has begun only now. -/
def Prompt (sheet : Timesheet) : Prop :=
  ∀ shift ∈ sheet.shifts, shift.ended.getD sheet.now = shift.begun

instance (sheet : Timesheet) : Decidable sheet.Prompt :=
  inferInstanceAs (Decidable (∀ shift ∈ sheet.shifts, shift.ended.getD sheet.now = shift.begun))

/-- Turns follow each other: one begins when those before it are over. -/
def Serial (shifts : List Shift) : Prop :=
  shifts.Pairwise fun late early => ∃ ended, early.ended = some ended ∧ ended ≤ late.begun

/-- What the watcher of a task can rely on, however long its turns take. -/
structure Coherent (sheet : Timesheet) : Prop where
  asked : sheet.asked.isSome = sheet.upkeep.dismissed
  askedBefore : ∀ time, sheet.asked = some time → time ≤ sheet.now
  begunBefore : ∀ shift ∈ sheet.shifts, shift.begun ≤ sheet.now
  endedBefore : ∀ shift ∈ sheet.shifts, ∀ ended, shift.ended = some ended → ended ≤ sheet.now
  serial : Serial sheet.shifts
  latest : ∀ shift earlier, sheet.shifts = shift :: earlier →
    (shift.ended = none ↔ sheet.upkeep.phase = .busy ∨ sheet.upkeep.phase = .lost)
  busy : sheet.upkeep.phase = .busy → sheet.shifts ≠ []
  unborn : sheet.upkeep.phase = .unborn → sheet.shifts = []
  ended : sheet.upkeep.phase = .ended → sheet.upkeep.dismissed = true

namespace Coherent
variable {sheet after : Timesheet}

/-- A task that is not in a turn is done with all of them. -/
theorem allEnded (coherent : sheet.Coherent) (idle : sheet.upkeep.phase = .idle) :
    ∀ shift ∈ sheet.shifts, ∃ ended, shift.ended = some ended ∧ ended ≤ sheet.now := by
  intro shift member
  cases all : sheet.shifts with
  | nil =>
    rw [all] at member
    cases member
  | cons latest earlier =>
    have finished : shift.ended ≠ none := by
      rw [all] at member
      rcases List.mem_cons.mp member with rfl | before
      · rw [ne_eq, coherent.latest _ _ all, idle]
        simp
      · have serial := coherent.serial
        rw [all] at serial
        obtain ⟨ended, known, _⟩ := (List.pairwise_cons.mp serial).1 shift before
        simp [known]
    obtain ⟨ended, known⟩ := Option.ne_none_iff_exists'.mp finished
    exact ⟨ended, known, coherent.endedBefore shift member ended known⟩

/-- A new turn follows on those before it. -/
private theorem serial_cons (coherent : sheet.Coherent) (idle : sheet.upkeep.phase = .idle)
    (turn : Turn) (ended : Option Nat) : Serial (⟨turn, sheet.now, ended⟩ :: sheet.shifts) :=
  List.pairwise_cons.mpr ⟨coherent.allEnded idle, coherent.serial⟩

/-- How a task stands after a turn fits to whether the turn is over. -/
private theorem leaves_iff {now : Nat} {phase : UpkeepPhase} {ended : Option Nat}
    (leaves : Leaves now phase ended) : (ended = none ↔ phase = .busy ∨ phase = .lost) ∧
      phase ≠ .unborn ∧ phase ≠ .ended ∧ ∀ time, ended = some time → time = now := by
  cases leaves <;> simp

theorem step (coherent : sheet.Coherent) (step : Step sheet after) : after.Coherent := by
  cases step with
  | still => exact coherent
  | dismiss =>
    refine { coherent with asked := ?_, askedBefore := ?_, ended := fun _ => rfl }
    · cases sheet.asked <;> rfl
    · intro time asked
      cases former : sheet.asked with
      | none =>
        rw [former] at asked
        cases asked
        exact Nat.le_refl _
      | some first =>
        rw [former] at asked
        cases asked
        exact coherent.askedBefore _ former
  | begin unborn =>
    have none := coherent.unborn unborn
    refine { coherent with asked := ?_, latest := ?_, busy := ?_, unborn := fun _ => none, ended := ?_ }
    · rw [Upkeep.begin_dismissed]
      exact coherent.asked
    · intro shift earlier all
      rw [none] at all
      cases all
    · rw [Upkeep.begin_phase]
      split <;> nofun
    · rw [Upkeep.begin_phase]
      split <;> nofun
  | stop idle due =>
    refine { coherent with asked := ?_, latest := ?_, busy := nofun, unborn := nofun, ended := ?_ }
    · rw [Upkeep.take_dismissed]
      exact coherent.asked
    · intro shift earlier all
      rw [coherent.latest shift earlier all, idle]
      simp [Upkeep.take]
    · rw [Upkeep.take_dismissed]
      exact fun _ => Upkeep.stop_mem_turns.mp due
  | work works idle due leaves =>
    obtain ⟨open_iff, born, goes, now⟩ := leaves_iff leaves
    refine ⟨?_, coherent.askedBefore, ?_, ?_, coherent.serial_cons idle _ _, ?_, nofun,
      fun unborn => absurd unborn born, fun ended => absurd ended goes⟩
    · exact coherent.asked.trans Upkeep.take_dismissed.symm
    · exact List.forall_mem_cons.mpr ⟨Nat.le_refl _, coherent.begunBefore⟩
    · exact List.forall_mem_cons.mpr ⟨fun time known => Nat.le_of_eq (now time known),
        coherent.endedBefore⟩
    · rintro shift earlier ⟨⟩
      exact open_iff
  | resume busy latest leaves =>
    obtain ⟨open_iff, born, goes, now⟩ := leaves_iff leaves
    have begun := coherent.begunBefore
    have finished := coherent.endedBefore
    have serial := coherent.serial
    rw [latest] at begun finished serial
    rw [List.forall_mem_cons] at begun finished
    refine ⟨coherent.asked, coherent.askedBefore, List.forall_mem_cons.mpr begun,
      List.forall_mem_cons.mpr ⟨fun time known => Nat.le_of_eq (now time known), finished.2⟩,
      List.pairwise_cons.mpr (List.pairwise_cons.mp serial), ?_, nofun,
      fun unborn => absurd unborn born, fun ended => absurd ended goes⟩
    rintro shift earlier ⟨⟩
    exact open_iff
  | wait later born rests =>
    exact { coherent with
      askedBefore := fun time known => Nat.le_trans (coherent.askedBefore time known) later
      begunBefore := fun shift member => Nat.le_trans (coherent.begunBefore shift member) later
      endedBefore := fun shift member time known =>
        Nat.le_trans (coherent.endedBefore shift member time known) later }

end Coherent

/-- Nothing that happens to a task changes its intervals. -/
theorem Step.every {sheet after : Timesheet} (step : Step sheet after) (turn : Turn) :
    after.upkeep.every turn = sheet.upkeep.every turn := by
  cases step with
  | still | wait => rfl
  | dismiss | resume => cases turn <;> rfl
  | begin =>
    dsimp only
    rw [Upkeep.begin_every]
  | stop =>
    dsimp only
    rw [Upkeep.take_every]
  | @work taken _ _ _ _ _ _ =>
    refine Eq.trans ?_ (@Upkeep.take_every sheet.upkeep sheet.now taken turn)
    cases turn <;> rfl

theorem Step.uptime {sheet after : Timesheet} (step : Step sheet after) :
    after.upkeep.uptime = sheet.upkeep.uptime := by
  cases step with
  | still | wait | dismiss | resume => rfl
  | begin =>
    dsimp only
    rw [Upkeep.begin_uptime]
  | stop =>
    dsimp only
    rw [Upkeep.take_uptime]
  | @work taken _ _ _ _ _ _ => exact @Upkeep.take_uptime sheet.upkeep sheet.now taken

/-- Nor does it change what can be told. -/
theorem Step.tells {sheet after : Timesheet} (step : Step sheet after) (now : Nat) :
    after.upkeep.tells now = sheet.upkeep.tells now :=
  Upkeep.tells_congr step.every step.uptime

/-- Time does not run back. -/
theorem Step.now_le {sheet after : Timesheet} (step : Step sheet after) : sheet.now ≤ after.now := by
  cases step with
  | wait later => exact later
  | _ => exact Nat.le_refl _

/-- If all turns have been prompt by now, they had been before. -/
theorem Coherent.prompt_before {sheet after : Timesheet} (coherent : sheet.Coherent)
    (step : Step sheet after) (prompt : after.Prompt) : sheet.Prompt := by
  cases step with
  | still | dismiss | begin | stop => exact fun shift member => prompt shift member
  | work => exact fun shift member => prompt shift (List.mem_cons_of_mem _ member)
  | resume busy latest leaves =>
    obtain ⟨first, others⟩ := List.forall_mem_cons.mp prompt
    intro shift member
    rw [latest] at member
    rcases List.mem_cons.mp member with rfl | before
    · rw [(coherent.latest _ _ latest).mpr (.inl busy)]
      cases leaves <;> exact first
    · exact others shift before
  | wait later =>
    intro shift member
    have before := coherent.begunBefore shift member
    have same := prompt shift member
    cases ended : shift.ended with
    | some time =>
      rw [ended] at same
      exact same
    | none =>
      rw [ended] at same
      exact Nat.le_antisymm (Nat.le_trans later (Nat.le_of_eq same)) before

/-- The turns of one kind were taken at the ends of an interval, and none was left out up to the
horizon, at which the next one may be due. -/
structure Keeps (start every : Nat) (turn : Turn) (shifts : List Shift) (horizon : Nat) : Prop where
  listed : times turn shifts = timetable start every (times turn shifts).length
  taken : start + (times turn shifts).length * every ≤ horizon
  next : horizon ≤ start + ((times turn shifts).length + 1) * every

theorem times_cons (turn : Turn) (shift : Shift) (shifts : List Shift) :
    times turn (shift :: shifts) =
      times turn shifts ++ if shift.turn = turn then [shift.begun] else [] := by
  by_cases same : shift.turn = turn <;> simp [times, same]

theorem Keeps.congr {start every horizon : Nat} {turn : Turn} {shifts others : List Shift}
    (keeps : Keeps start every turn shifts horizon) (same : times turn others = times turn shifts) :
    Keeps start every turn others horizon := by
  obtain ⟨listed, taken, next⟩ := keeps
  rw [← same] at listed taken next
  exact ⟨listed, taken, next⟩

/-- A turn that is taken at the end of the horizon, when it is due, is the next of the timetable. -/
theorem Keeps.cons {start every horizon : Nat} {turn : Turn} {shifts : List Shift}
    (keeps : Keeps start every turn shifts horizon) {shift : Shift} (same : shift.turn = turn)
    (now : shift.begun = horizon)
    (due : start + ((times turn shifts).length + 1) * every ≤ horizon) :
    Keeps start every turn (shift :: shifts) horizon := by
  have listed := keeps.listed
  have next := keeps.next
  have exactly : horizon = start + ((times turn shifts).length + 1) * every :=
    Nat.le_antisymm next due
  have grown : times turn (shift :: shifts) = times turn shifts ++ [horizon] := by
    rw [times_cons, if_pos same, now]
  constructor
  · rw [grown, List.length_append, List.length_singleton, timetable, List.range_succ,
      List.map_append, ← timetable, ← listed, exactly]
    rfl
  · rw [grown, List.length_append, List.length_singleton]
    exact due
  · rw [grown, List.length_append, List.length_singleton]
    refine Nat.le_trans next (Nat.add_le_add_left (Nat.mul_le_mul_right every ?_) start)
    omega

/-- A turn of another kind is no matter. -/
theorem Keeps.other {start every horizon : Nat} {turn : Turn} {shifts : List Shift}
    (keeps : Keeps start every turn shifts horizon) {shift : Shift} (other : shift.turn ≠ turn) :
    Keeps start every turn (shift :: shifts) horizon := by
  refine keeps.congr ?_
  rw [times_cons, if_neg other, List.append_nil]

/-- What a watcher can rely on of a task whose turns have been prompt, and whose intervals could be
told: it takes its turns at the ends of their intervals, which are whole milliseconds. -/
structure Punctual (start : Nat) (every : Turn → Nat) (sheet : Timesheet) : Prop where
  tells : sheet.upkeep.tells start = true
  intervals : ∀ turn, turn ≠ .stop →
    (sheet.upkeep.every turn).toNanos = every turn * 1000000
  unborn : sheet.upkeep.phase = .unborn → sheet.now = start
  lost : sheet.upkeep.phase = .lost → sheet.shifts ≠ []
  horizon : sheet.upkeep.phase ≠ .ended → sheet.horizon = sheet.now
  due : sheet.upkeep.phase ≠ .unborn → ∀ turn, turn ≠ .stop → sheet.upkeep.due turn =
    (start + ((times turn sheet.shifts).length + 1) * every turn) * 1000000
  keeps : ∀ turn, turn ≠ .stop → Keeps start (every turn) turn sheet.shifts sheet.horizon

namespace Punctual
variable {start : Nat} {every : Turn → Nat} {sheet after : Timesheet}

/-- Being asked to end leaves the horizon where it is. -/
private theorem horizon_dismissed (sheet : Timesheet) :
    (sheet.asked.or (some sheet.now)).getD sheet.now = sheet.horizon := by
  rw [Timesheet.horizon]
  cases sheet.asked <;> rfl

/-- A task that is in a turn has been so only since now, if it is prompt. -/
private theorem wait_in_turn (coherent : sheet.Coherent)
    (inTurn : sheet.upkeep.phase = .busy ∨ sheet.upkeep.phase = .lost) (begun : sheet.shifts ≠ [])
    {moment : Nat} (later : sheet.now ≤ moment)
    (prompt : ({ sheet with now := moment } : Timesheet).Prompt) : moment = sheet.now := by
  cases all : sheet.shifts with
  | nil => exact absurd all begun
  | cons latest earlier =>
    have member : latest ∈ sheet.shifts := all ▸ List.mem_cons_self
    have same := prompt latest member
    rw [(coherent.latest _ _ all).mpr inTurn] at same
    exact Nat.le_antisymm (Nat.le_trans (Nat.le_of_eq same) (coherent.begunBefore _ member)) later

private theorem wait (punctual : sheet.Punctual start every) (coherent : sheet.Coherent)
    {moment : Nat} (later : sheet.now ≤ moment) (born : sheet.upkeep.phase ≠ .unborn)
    (rests : sheet.upkeep.phase = .idle →
      sheet.upkeep.turns sheet.now = [] ∧ moment ≤ sheet.upkeep.wakesAt)
    (prompt : ({ sheet with now := moment } : Timesheet).Prompt) :
    ({ sheet with now := moment } : Timesheet).Punctual start every := by
  cases phase : sheet.upkeep.phase with
  | unborn => exact absurd phase born
  | busy =>
    rw [wait_in_turn coherent (.inl phase) (coherent.busy phase) later prompt]
    exact punctual
  | lost =>
    rw [wait_in_turn coherent (.inr phase) (punctual.lost phase) later prompt]
    exact punctual
  | ended =>
    have asked := coherent.asked.trans (coherent.ended phase)
    obtain ⟨time, known⟩ := Option.isSome_iff_exists.mp asked
    have same : ({ sheet with now := moment } : Timesheet).horizon = sheet.horizon := by
      rw [Timesheet.horizon, Timesheet.horizon, known]
      rfl
    exact { punctual with
      unborn := fun unborn => absurd unborn born
      horizon := fun goes => absurd phase goes
      keeps := fun turn works => same ▸ punctual.keeps turn works }
  | idle =>
    obtain ⟨none, wakes⟩ := rests phase
    obtain ⟨stays, early⟩ := Upkeep.turns_eq_nil_iff.mp none
    have unasked : sheet.asked = Option.none := by
      rw [← Option.isSome_eq_false_iff.trans Option.isNone_iff_eq_none, coherent.asked]
      exact stays
    have horizon : ({ sheet with now := moment } : Timesheet).horizon = moment := by
      rw [Timesheet.horizon, unasked]
      rfl
    have now := punctual.horizon (by rw [phase]; nofun)
    refine { punctual with
      unborn := fun unborn => absurd unborn born
      horizon := fun _ => horizon
      keeps := fun turn works => ?_ }
    have keeps := punctual.keeps turn works
    have wakesAt := Upkeep.wakesAt_le works (punctual.due born turn works)
    rw [now] at keeps
    rw [horizon]
    exact ⟨keeps.listed, Nat.le_trans keeps.taken later, Nat.le_trans wakes wakesAt⟩

/-- The task goes on in another way, and has not taken a turn. -/
private theorem revise (punctual : sheet.Punctual start every) (latter : Upkeep)
    (same : ∀ turn, latter.every turn = sheet.upkeep.every turn)
    (told : latter.tells start = sheet.upkeep.tells start) (born : latter.phase ≠ .unborn)
    (kept : latter.phase ≠ .lost) (goes : latter.phase ≠ .ended → sheet.upkeep.phase ≠ .ended)
    (due : ∀ turn, turn ≠ .stop → latter.due turn =
      (start + ((times turn sheet.shifts).length + 1) * every turn) * 1000000) :
    ({ sheet with upkeep := latter } : Timesheet).Punctual start every where
  tells := told.trans punctual.tells
  intervals turn works := same turn ▸ punctual.intervals turn works
  unborn unborn := absurd unborn born
  lost lost := absurd lost kept
  horizon on := punctual.horizon (goes on)
  due _ := due
  keeps := punctual.keeps

/-- A turn that is due is due now to the millisecond, and again after its interval. -/
private theorem work (punctual : sheet.Punctual start every)
    {turn : Turn} {phase : UpkeepPhase} {ended : Option Nat} (works : turn ≠ .stop)
    (idle : sheet.upkeep.phase = .idle) (due : turn ∈ sheet.upkeep.turns sheet.now)
    (leaves : Leaves sheet.now phase ended) (latter : Upkeep)
    (same : ∀ other, latter.every other = sheet.upkeep.every other)
    (told : latter.tells start = sheet.upkeep.tells start)
    (put : ∀ other, latter.due other = (sheet.upkeep.take sheet.now turn).due other)
    (left : latter.phase = phase) :
    ({ sheet with
      upkeep := latter
      shifts := ⟨turn, sheet.now, ended⟩ :: sheet.shifts } : Timesheet).Punctual start every := by
  have now := punctual.horizon (by rw [idle]; nofun)
  have known := punctual.due (by rw [idle]; nofun)
  have late := (Upkeep.mem_turns works).mp due
  rw [known turn works] at late
  have reached := Nat.le_of_mul_le_mul_right late (by decide)
  have exactly : sheet.now = start + ((times turn sheet.shifts).length + 1) * every turn :=
    Nat.le_antisymm (now ▸ (punctual.keeps turn works).next) reached
  refine ⟨told.trans punctual.tells, fun other others =>
    same other ▸ punctual.intervals other others, ?_, fun _ => nofun, fun _ => now, ?_, ?_⟩
  · rw [show ({ sheet with upkeep := latter } : Timesheet).upkeep.phase = phase from left]
    cases leaves <;> nofun
  · intro _ other others
    rw [put, Upkeep.take_due works, times_cons]
    by_cases taken : other = turn
    · subst taken
      rw [if_pos rfl, if_pos rfl, known other others, Upkeep.nextDue_of_whole (Nat.le_of_eq exactly),
        punctual.intervals other others, List.length_append, List.length_singleton,
        ← Nat.add_mul, Nat.add_assoc, ← Nat.succ_mul]
    · rw [if_neg taken, if_neg (Ne.symm taken), List.append_nil]
      exact known other others
  · intro other others
    by_cases taken : turn = other
    · subst taken
      exact (punctual.keeps turn works).cons rfl now.symm (now ▸ reached)
    · exact (punctual.keeps other others).other taken

theorem step (punctual : sheet.Punctual start every) (coherent : sheet.Coherent)
    (step : Step sheet after) (prompt : after.Prompt) : after.Punctual start every := by
  have same := step.every
  have told := step.tells start
  have tells := told.trans punctual.tells
  have intervals : ∀ turn, turn ≠ .stop →
      (after.upkeep.every turn).toNanos = every turn * 1000000 := fun turn works =>
    same turn ▸ punctual.intervals turn works
  cases step with
  | still => exact punctual
  | dismiss =>
    have horizon := horizon_dismissed sheet
    refine { punctual with tells, intervals, horizon := ?_, due := ?_, keeps := ?_ }
    · exact fun goes => horizon.trans (punctual.horizon goes)
    · intro born turn works
      rw [← punctual.due born turn works]
      cases turn <;> rfl
    · intro turn works
      rw [Timesheet.horizon, horizon]
      exact punctual.keeps turn works
  | begin unborn =>
    have now := punctual.unborn unborn
    have phase : (sheet.upkeep.begin sheet.now).phase = .idle := by
      rw [Upkeep.begin_phase, now, if_pos punctual.tells]
    refine punctual.revise (sheet.upkeep.begin sheet.now) (fun turn => Upkeep.begin_every turn) told
      (by rw [phase]; nofun) (by rw [phase]; nofun) (fun _ => by rw [unborn]; nofun)
      fun turn works => ?_
    rw [Upkeep.begin_due (now ▸ punctual.tells) works, punctual.intervals turn works,
      coherent.unborn unborn, now, ← Nat.add_mul]
    simp [times]
  | stop idle due =>
    refine punctual.revise _ same told nofun nofun (fun goes => absurd rfl goes) fun turn works => ?_
    rw [← punctual.due (by rw [idle]; nofun) turn works]
    cases turn <;> rfl
  | work works idle due leaves =>
    refine punctual.work works idle due leaves _ same told (fun other => ?_) rfl
    cases other <;> rfl
  | @resume shift earlier phase ended busy latest leaves =>
    have kept : ∀ turn, times turn ({ shift with ended } :: earlier) = times turn sheet.shifts := by
      intro turn
      rw [latest, times_cons, times_cons]
    refine ⟨tells, intervals, ?_, fun _ => nofun, fun _ => ?_, fun _ turn works => ?_,
      fun turn works => ?_⟩
    · cases leaves <;> nofun
    · exact punctual.horizon (by rw [busy]; nofun)
    · rw [kept, ← punctual.due (by rw [busy]; nofun) turn works]
      cases turn <;> rfl
    · exact (punctual.keeps turn works).congr (kept turn)
  | wait later born rests => exact punctual.wait coherent later born rests prompt

/-- A task that waits for its next turn has taken all that were due. -/
private theorem settled (punctual : sheet.Punctual start every) (idle : sheet.upkeep.phase = .idle)
    (none : sheet.upkeep.turns sheet.now = []) {turn : Turn} (works : turn ≠ .stop) :
    sheet.now < start + ((times turn sheet.shifts).length + 1) * every turn := by
  have early := (Upkeep.turns_eq_nil_iff.mp none).2 turn works
  rw [punctual.due (by rw [idle]; nofun) turn works] at early
  exact Nat.lt_of_mul_lt_mul_right early

end Punctual

/-- The turns of one kind were taken on time: at the ends of an interval, and none was left out up to
the horizon. While the task waits for its next turn, that one is yet to come. -/
structure OnTime (start every : Nat) (turn : Turn) (sheet : Timesheet) : Prop where
  keeps : Keeps start every turn sheet.shifts sheet.horizon
  ahead : sheet.upkeep.phase = .idle → sheet.upkeep.turns sheet.now = [] →
    sheet.now < start + ((times turn sheet.shifts).length + 1) * every

theorem Punctual.onTime {start : Nat} {every : Turn → Nat} {sheet : Timesheet}
    (punctual : sheet.Punctual start every) {turn : Turn} (works : turn ≠ .stop) :
    sheet.OnTime start (every turn) turn :=
  ⟨punctual.keeps turn works, fun idle none => punctual.settled idle none works⟩

/-- A task with an interval that cannot be told never takes a turn. -/
structure Forlorn (start : Nat) (sheet : Timesheet) : Prop where
  tells : sheet.upkeep.tells start = false
  shifts : sheet.shifts = []
  phase : sheet.upkeep.phase = .unborn ∧ sheet.now = start ∨ sheet.upkeep.phase = .lost

theorem Forlorn.step {start : Nat} {sheet after : Timesheet} (forlorn : sheet.Forlorn start)
    (step : Step sheet after) : after.Forlorn start := by
  have tells := (step.tells start).trans forlorn.tells
  have sleeps : sheet.upkeep.phase ≠ .idle ∧ sheet.upkeep.phase ≠ .busy := by
    rcases forlorn.phase with ⟨unborn, _⟩ | lost <;> simp [*]
  cases step with
  | still => exact forlorn
  | dismiss => exact ⟨tells, forlorn.shifts, forlorn.phase⟩
  | begin unborn =>
    have now : sheet.now = start := by
      rcases forlorn.phase with ⟨_, now⟩ | lost
      · exact now
      · rw [lost] at unborn
        cases unborn
    refine ⟨tells, forlorn.shifts, .inr ?_⟩
    rw [Upkeep.begin_phase, now, forlorn.tells]
    rfl
  | stop idle => exact absurd idle sleeps.1
  | work _ idle => exact absurd idle sleeps.1
  | resume busy => exact absurd busy sleeps.2
  | wait _ born =>
    exact ⟨tells, forlorn.shifts, .inr (forlorn.phase.resolve_left fun unborn => born unborn.1)⟩

/-- A task that is over does nothing any more. -/
theorem Step.stays_over {sheet after : Timesheet} (step : Step sheet after)
    (isOver : sheet.upkeep.isOver = true) :
    after.upkeep.isOver = true ∧ after.shifts = sheet.shifts := by
  have phase := Upkeep.isOver_iff.mp isOver
  have gone : sheet.upkeep.phase ≠ .unborn ∧ sheet.upkeep.phase ≠ .idle ∧
      sheet.upkeep.phase ≠ .busy := by
    rcases phase with ended | lost <;> simp [*]
  cases step with
  | still | dismiss | wait => exact ⟨isOver, rfl⟩
  | begin unborn => exact absurd unborn gone.1
  | stop idle => exact absurd idle gone.2.1
  | work _ idle => exact absurd idle gone.2.1
  | resume busy => exact absurd busy gone.2.2

end Timesheet
end ClusterPool
