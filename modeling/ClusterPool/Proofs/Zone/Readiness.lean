import ClusterPool.Proofs.Zone.Reporting
import ClusterPool.Proofs.Zone.Rescue

/-! When a pool makes its backend ready. It does so once, in the first reconciliation of its clusters
that changes anything. A change may be no more than that clusters retire; but as long as the backend
is not ready there are no clusters that could, so that the first change always leaves some routes.

The theorem is about courses in which nobody else says of the backend that it is ready. -/
namespace ClusterPool
open Program

/-- The summary of an answer that is one. -/
def Answer.summary? : Answer → Option Summary
  | .summary given => some given
  | _ => none

/-- The backend was not ready when the pool was built, and what happens outside of the pool does not
change whether it is. -/
def Unaided : List Leg → Zone → Prop
  | [], zone => zone.catalog.ready = false
  | leg :: earlier, zone =>
    zone.catalog.ready = leg.after.catalog.ready ∧ Unaided earlier leg.before

instance Unaided.decidable : ∀ legs zone, Decidable (Unaided legs zone)
  | [], zone => inferInstanceAs (Decidable (zone.catalog.ready = false))
  | leg :: earlier, zone =>
    have := Unaided.decidable earlier leg.before
    inferInstanceAs (Decidable (zone.catalog.ready = leg.after.catalog.ready ∧ _))

theorem Unaided.upTo {later earlier : List Leg} {leg : Leg} {zone : Zone}
    (unaided : Unaided (later ++ leg :: earlier) zone) : Unaided earlier leg.before := by
  induction later generalizing zone with
  | nil => exact unaided.2
  | cons _ _ ih => exact ih unaided.2

namespace Leg

/-- The summary that the errand answers, if it answers one. -/
def summary? (leg : Leg) : Option Summary :=
  (leg.errand.work.runAlone Zone.passUntil leg.before).1.bind Answer.summary?

/-- The errand answers that something has changed. -/
def Changes (leg : Leg) : Prop := ∃ summary, leg.summary? = some summary ∧ summary.changed = true

/-- The errand makes the backend ready. -/
def Marks (leg : Leg) : Prop :=
  leg.before.catalog.ready = false ∧ leg.after.catalog.ready = true

/-- The notes with which the errand closes the report of a reconciliation. -/
def closing (leg : Leg) : List Note :=
  (leg.after.journal.take (leg.after.journal.length - leg.before.journal.length)).filter
    (·.event.concludes)

/-- Such a note announces that the backend is ready. -/
def Announces (leg : Leg) : Prop := ∃ note ∈ leg.closing, note.Announces

end Leg

namespace Zone

/-- Nothing is served and nothing retires. -/
structure Bare (zone : Zone) : Prop where
  active : zone.active = .empty
  retiring : zone.retiring = .empty
  routes : zone.rotation.names = []

/-- What changes a bare zone leaves it some routes, since nothing can retire in it. -/
theorem Bare.routed {zone : Zone} (bare : zone.Bare) {order : List Cluster}
    (changed : (zone.summaryOf order).changed = true) : zone.servable order ≠ [] := by
  intro none
  have created : zone.ofOrigin .created order = [] := by
    have failed := servable_eq_nil_iff.mp none
    simp +contextual [ofOrigin, List.filter_eq_nil_iff, failed]
  have removed : zone.active.names = [] := by
    rw [bare.active]
    rfl
  simp [Summary.changed, summaryOf, none, bare.routes, created, removed] at changed

/-- What does not change a bare zone leaves it bare, even if clusters were offered and failed. -/
theorem Realigned.bare {before after : Zone} (realigned : before.Realigned after)
    (bare : before.Bare) (same : ¬before.verdict.any Summary.changed = true) : after.Bare := by
  unfold Realigned at realigned
  split at realigned
  · obtain ⟨_, _, _, _, rfl⟩ := realigned
    exact ⟨bare.active, bare.retiring, bare.routes⟩
  · rename_i offers
    obtain ⟨summary, reconciled⟩ := realigned
    have unchanged : before.rotation.names = before.servable before.offered := by
      simp only [verdict, offers, ↓reduceIte, Option.any_some, Summary.changed, summaryOf,
        Bool.or_eq_true, decide_eq_true_eq, not_or, Classical.not_not] at same
      exact same.1.1
    have none : before.servable before.offered = [] := unchanged.symm.trans bare.routes
    have inactive : after.active = .empty := by
      refine NameTable.eq_empty_of_find? fun name => ?_
      rw [← NameTable.contains_eq_false_iff, Bool.eq_false_iff]
      intro active
      rw [reconciled.active, none] at active
      cases active
    refine ⟨inactive, NameTable.eq_empty_of_find? fun name => ?_, reconciled.routes.trans none⟩
    rw [reconciled.retiring, bare.active, bare.retiring]
    split <;> rfl

end Zone

namespace Errand

variable {errand : Errand} {before after : Zone}

/-- Only a reconciliation of the clusters answers a summary. -/
theorem summary?_work (errand : Errand) {zone : Zone} (sound : zone.Sound) :
    errand.work.Ensures Zone.passUntil (fun answer _ => answer.summary? =
      if errand.realigns = true then zone.reconciliation.toOption else none) zone := by
  cases errand with
  | reload =>
    refine Ensures.bind ((Zone.reload_answers sound.idle sound.apart).ensures.mono ?_)
    rintro _ after rfl
    cases zone.reconciliation <;> exact ensures_done.mpr rfl
  | reconcileClusters =>
    refine Ensures.bind ((Zone.reconcileClustersAlone_answers sound.idle sound.apart).ensures.mono ?_)
    rintro _ after rfl
    cases zone.reconciliation <;> exact ensures_done.mpr rfl
  | reconcileTopics =>
    exact Ensures.bind fun result _ _ => by cases result <;> exact ensures_done.mpr rfl
  | reclaim => exact Ensures.bind fun _ _ _ => ensures_done.mpr rfl
  | dispatch batch =>
    refine Ensures.bind fun _ _ _ => Ensures.bind fun result _ _ => ?_
    cases result <;> exact ensures_done.mpr rfl
  | close => exact Ensures.bind fun _ _ _ => ensures_done.mpr rfl

/-- Other errands do not ask whether the backend is ready. -/
theorem ready_eq (effect : errand.Effect before after) (other : errand.realigns = false) :
    after.catalog.ready = before.catalog.ready := by
  cases errand with
  | reload | reconcileClusters => cases other
  | reconcileTopics =>
    obtain ⟨_, _, _, _, _, _, rfl⟩ := effect.rest
    rfl
  | reclaim =>
    obtain ⟨_, _, _, _, _, _, rfl⟩ := effect.rest
    rfl
  | dispatch batch =>
    obtain ⟨_, _, _, _, _, rfl⟩ := effect.rest
    rfl
  | close =>
    obtain ⟨_, _, _, _, _, _, rfl⟩ := effect.rest
    rfl

theorem bare (effect : errand.Effect before after) (bare : before.Bare)
    (same : errand.realigns = true → ¬before.verdict.any Summary.changed = true) :
    after.Bare := by
  cases errand with
  | reload =>
    obtain ⟨middle, realigned, _, ⟨_, _, _, _, _, _, rfl⟩, _, _⟩ := effect
    obtain ⟨active, retiring, routes⟩ := realigned.bare bare (same rfl)
    exact ⟨active, retiring, routes⟩
  | reconcileClusters => exact effect.bare bare (same rfl)
  | reconcileTopics =>
    obtain ⟨_, _, _, _, _, _, rfl⟩ := effect.rest
    exact ⟨bare.active, bare.retiring, bare.routes⟩
  | reclaim =>
    have retiring := effect.retiring
    obtain ⟨_, _, _, _, _, _, rfl⟩ := effect.rest
    refine ⟨bare.active, ?_, bare.routes⟩
    rw [retiring, bare.retiring]
    rfl
  | dispatch batch =>
    obtain ⟨_, _, _, _, _, rfl⟩ := effect.rest
    exact ⟨bare.active, bare.retiring, bare.routes⟩
  | close =>
    have routes := effect.routes
    obtain ⟨_, _, _, _, _, _, rfl⟩ := effect.rest
    exact ⟨rfl, rfl, routes⟩

/-- The routes after a reconciliation to which clusters are offered. -/
theorem routes_eq (effect : errand.Effect before after) (realigns : errand.realigns = true)
    (offers : before.offered ≠ []) :
    after.rotation.names = before.servable before.offered := by
  have routes : ∀ middle, before.Realigned middle →
      middle.rotation.names = before.servable before.offered := by
    intro middle realigned
    rw [Zone.Realigned, if_neg offers] at realigned
    obtain ⟨_, reconciled⟩ := realigned
    exact reconciled.routes
  cases errand with
  | reload =>
    obtain ⟨middle, realigned, _, ⟨_, _, _, _, _, _, rfl⟩, _, _⟩ := effect
    exact routes middle realigned
  | reconcileClusters => exact routes after effect
  | reconcileTopics | reclaim | dispatch | close => cases realigns

end Errand

namespace Leg

variable {leg : Leg} {answer : Answer}

/-- The summary of a leg can be told from the zone before it. -/
theorem summary?_eq (sound : leg.before.Sound) : leg.summary? =
    if leg.errand.realigns = true then leg.before.reconciliation.toOption else none := by
  obtain ⟨answer, after, ran, _⟩ := leg.errand.attains sound.idle sound.apart
  rw [summary?, ran]
  exact leg.errand.summary?_work sound answer after ran

theorem summary?_of_offered (sound : leg.before.Sound) (realigns : leg.errand.realigns = true)
    (offers : leg.before.offered ≠ []) :
    leg.summary? = some (leg.before.summaryOf leg.before.offered) := by
  rw [summary?_eq sound, if_pos realigns, Zone.reconciliation_of_offered offers]
  rfl

/-- An errand changes something if it reconciles the clusters and the verdict is that it does. -/
theorem changes_iff (sound : leg.before.Sound) : leg.Changes ↔
    leg.errand.realigns = true ∧ leg.before.verdict.any Summary.changed = true := by
  by_cases realigns : leg.errand.realigns = true
  · by_cases offers : leg.before.offered = []
    · have nothing : leg.before.verdict = none := if_pos offers
      simp only [Changes, summary?_eq sound, realigns, nothing, ↓reduceIte, Option.any_none,
        Bool.false_eq_true, and_false, iff_false]
      rintro ⟨summary, answers, changed⟩
      cases reconciled : leg.before.reconciliation with
      | error fault =>
        rw [reconciled] at answers
        cases answers
      | ok other =>
        rw [reconciled] at answers
        cases answers
        rw [Zone.reconciliation_of_nothing offers reconciled] at changed
        cases changed
    · have told : leg.before.verdict = some (leg.before.summaryOf leg.before.offered) :=
        if_neg offers
      simp [Changes, summary?_of_offered sound realigns offers, realigns, told]
  · simp [Changes, summary?_eq sound, realigns]

section
variable {verdict : Option Summary} (concluded : Zone.Concluded verdict leg.before leg.after)
include concluded

theorem closing_eq : leg.closing = verdict.toList.map fun summary =>
    ⟨leg.before.name, summary.conclusion leg.before.catalog.ready⟩ := by
  obtain ⟨notes, journal, closing⟩ := concluded.notes
  rw [Leg.closing, journal]
  simpa using closing

theorem marks_iff : leg.Marks ↔
    verdict.any Summary.changed = true ∧ leg.before.catalog.ready = false := by
  rw [Marks, concluded.ready, and_comm]
  refine and_congr_left fun unready => ?_
  rw [unready, Bool.false_or]

theorem announces_iff : leg.Announces ↔ leg.Marks := by
  rw [Announces, closing_eq concluded, marks_iff concluded]
  cases verdict with
  | none => simp
  | some summary => simp [Note.announces_conclusion_iff]

end

end Leg

namespace Course

/-- A pool in which nothing has changed yet is bare. -/
private theorem bare {legs : List Leg} {zone : Zone} (course : Course legs zone)
    (same : ∀ leg ∈ legs, ¬leg.Changes) : zone.Bare := by
  induction course with
  | begin built _ =>
    obtain ⟨_, rfl⟩ := Zone.build_eq built
    exact ⟨rfl, rfl, rfl⟩
  | outside _ change ih =>
    obtain ⟨active, retiring, routes⟩ := ih same
    obtain ⟨⟨_, _, _, rfl⟩, _, _⟩ := change
    exact ⟨active, retiring, routes⟩
  | errand errand course ran ih =>
    obtain ⟨now, earlier⟩ := List.forall_mem_cons.mp same
    have effect := ((errand.attains course.sound.idle course.sound.apart).of_ran ran).1
    exact errand.bare effect (ih earlier) fun realigns changed =>
      now ((Leg.changes_iff course.sound).mpr ⟨realigns, changed⟩)

/-- After an errand the backend is ready if it was before or if something has changed. -/
private theorem ready_iff {earlier : List Leg} {leg : Leg} {zone : Zone}
    (course : Course (leg :: earlier) zone) : leg.after.catalog.ready = true ↔
      leg.before.catalog.ready = true ∨ leg.Changes := by
  obtain ⟨past, answer, ran⟩ := course.back
  rw [Leg.changes_iff past.sound]
  by_cases realigns : leg.errand.realigns = true
  · have concluded := Errand.concludes realigns past.sound.idle past.sound.apart answer leg.after ran
    rw [concluded.ready, Bool.or_eq_true]
    exact or_congr_right (and_iff_right realigns).symm
  · rw [Errand.ready_eq (course.effect List.mem_cons_self).2 (Bool.eq_false_iff.mpr realigns)]
    simp [realigns]

private theorem ready {legs : List Leg} {zone : Zone} (course : Course legs zone)
    (unaided : Unaided legs zone) : zone.catalog.ready = true ↔ ∃ leg ∈ legs, leg.Changes := by
  induction legs generalizing zone with
  | nil =>
    have unready : zone.catalog.ready = false := unaided
    simp [unready]
  | cons leg earlier ih =>
    rw [unaided.1, course.ready_iff, ih course.back.1 unaided.2, or_comm]
    simp

section
variable {earlier : List Leg} {leg : Leg} {zone : Zone} (course : Course (leg :: earlier) zone)
include course

private theorem marks_iff (unaided : Unaided earlier leg.before) :
    leg.Marks ↔ leg.Changes ∧ ∀ other ∈ earlier, ¬other.Changes := by
  have unready : leg.before.catalog.ready = false ↔ ∀ other ∈ earlier, ¬other.Changes := by
    rw [← Bool.not_eq_true, course.back.1.ready unaided]
    simp
  rw [Leg.Marks, course.ready_iff, ← unready, and_comm]
  refine and_congr_left fun unready => ?_
  simp [unready]

/-- The first reconciliation that changes something finds no routes and leaves some. -/
private theorem routed (changes : leg.Changes) (never : ∀ other ∈ earlier, ¬other.Changes) :
    ∃ summary, leg.summary? = some summary ∧ summary.routes ≠ [] ∧
      leg.after.rotation.names = summary.routes := by
  obtain ⟨past, answer, ran⟩ := course.back
  obtain ⟨realigns, changed⟩ := (Leg.changes_iff past.sound).mp changes
  have offers : leg.before.offered ≠ [] := by
    intro nothing
    have none : leg.before.verdict = none := if_pos nothing
    rw [none] at changed
    cases changed
  have told : leg.before.verdict = some (leg.before.summaryOf leg.before.offered) := if_neg offers
  rw [told] at changed
  exact ⟨_, Leg.summary?_of_offered past.sound realigns offers, (past.bare never).routed changed,
    Errand.routes_eq (course.effect List.mem_cons_self).2 realigns offers⟩

private theorem closes_once (realigns : leg.errand.realigns = true)
    (offers : leg.before.offered ≠ []) : ∃ summary note, leg.summary? = some summary ∧
      leg.closing = [note] ∧ note.level =
        if summary.changed = true then .info
        else if summary.failed ≠ [] then .warn else .debug := by
  obtain ⟨past, answer, ran⟩ := course.back
  have concluded :=
    Errand.concludes realigns past.sound.idle past.sound.apart answer leg.after ran
  have told : leg.before.verdict = some (leg.before.summaryOf leg.before.offered) := if_neg offers
  have closing : leg.closing = [⟨leg.before.name, (leg.before.summaryOf
      leg.before.offered).conclusion leg.before.catalog.ready⟩] := by
    rw [Leg.closing_eq concluded, told]
    rfl
  exact ⟨_, _, Leg.summary?_of_offered past.sound realigns offers, closing,
    Note.level_conclusion ..⟩

end

/-- In a course in which nobody else makes the backend ready, the pool does so on the first leg whose
reconciliation changes anything and on no other. That reconciliation, and no other, announces it in
the note that it closes with, and leaves routes. Whenever clusters are active or retire, the backend
is ready. Every reconciliation to which clusters are offered closes with exactly one note, which
informs of a change, warns of failures without a change, or else tells that nothing changed. -/
theorem marks_iff_first_change {legs : List Leg} {zone : Zone} (course : Course legs zone)
    (unaided : Unaided legs zone) :
    (∀ later leg earlier, legs = later ++ leg :: earlier →
      (leg.Marks ↔ leg.Changes ∧ ∀ other ∈ earlier, ¬other.Changes) ∧
      (leg.errand.realigns = true → (leg.Announces ↔ leg.Marks)) ∧
      (leg.Marks → ∃ summary, leg.summary? = some summary ∧ summary.routes ≠ [] ∧
        leg.after.rotation.names = summary.routes)) ∧
    (zone.active ≠ .empty ∨ zone.retiring ≠ .empty → zone.catalog.ready = true) ∧
    ∀ leg ∈ legs, leg.errand.realigns = true → leg.before.offered ≠ [] →
      ∃ summary note, leg.summary? = some summary ∧ leg.closing = [note] ∧ note.level =
        if summary.changed = true then .info else if summary.failed ≠ [] then .warn else .debug := by
  refine ⟨?_, ?_, ?_⟩
  · rintro later leg earlier rfl
    obtain ⟨_, whole⟩ := course.upTo
    obtain ⟨past, answer, ran⟩ := whole.back
    have marks := whole.marks_iff unaided.upTo
    refine ⟨marks, fun realigns => ?_, fun marked => ?_⟩
    · exact Leg.announces_iff
        (Errand.concludes realigns past.sound.idle past.sound.apart answer leg.after ran)
    · obtain ⟨changes, never⟩ := marks.mp marked
      exact whole.routed changes never
  · intro holds
    rw [course.ready unaided]
    refine Classical.byContradiction fun never => ?_
    obtain ⟨active, retiring, _⟩ := course.bare fun leg member changes =>
      never ⟨leg, member, changes⟩
    exact holds.elim (· active) (· retiring)
  · intro leg member realigns offers
    obtain ⟨later, earlier, rfl⟩ := List.append_of_mem member
    obtain ⟨_, whole⟩ := course.upTo
    exact whole.closes_once realigns offers

/-- A pool finds no clusters, then one, then the same again. After a closing it finds it anew. -/
def debut : List Leg × Zone :=
  let one : Inventory := { clusters := [{ name := "A" }] }
  errands blank [({}, 0, .reload), (one, 0, .reload), (one, 0, .reconcileClusters), (one, 0, .close),
    (one, 0, .reload)]

private theorem debut_course : Course debut.1 debut.2 := of_errands blank_built rfl _

/-- The second reload makes the backend ready and announces it; the last one changes as much and does
not. -/
theorem marks_iff_first_change_of_debut : debut.2.catalog.ready = true ∧
    (∀ leg, debut.1[3]? = some leg → leg.Marks ∧ leg.Announces) ∧
    ∀ leg, debut.1[0]? = some leg → leg.Changes ∧ ¬leg.Announces := by
  have unaided : Unaided debut.1 debut.2 := by decide +kernel
  obtain ⟨legs, ready, _⟩ := marks_iff_first_change debut_course unaided
  have serves : debut.2.active.contains "A" = true := rfl
  refine ⟨ready (.inl fun none => ?_), ?_, ?_⟩
  · rw [none] at serves
    cases serves
  · rintro leg ⟨⟩
    obtain ⟨_, announces, _⟩ := legs [_, _, _] _ [_] rfl
    rw [announces rfl]
    exact ⟨⟨rfl, rfl⟩, rfl, rfl⟩
  · rintro leg ⟨⟩
    obtain ⟨_, announces, _⟩ := legs [] _ [_, _, _, _] rfl
    refine ⟨⟨_, rfl, rfl⟩, fun announced => ?_⟩
    obtain ⟨unready, _⟩ := (announces rfl).mp announced
    cases unready

end Course
end ClusterPool
