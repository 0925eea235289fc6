import ClusterPool.Proofs.Zone.Answers
import ClusterPool.Proofs.Zone.Expiry

/-! The rescue of a producer. Whatever happens while its cluster is away, a producer that is not
overdue waits in retirement, and takes up its work again as the same one when the cluster comes
back. From then on its former retirement is forgotten. -/
namespace ClusterPool
open Program

/-- The producer retires on this leg. -/
def Leg.Retires (leg : Leg) (id : ProducerId) : Prop :=
  id ∈ Zone.idsOf leg.before.active ∧ id ∈ Zone.idsOf leg.after.retiring

/-- What may happen to a cluster that retires since some stamp: anything but that the pool is
closed, that the cluster is offered again, or that its grace period is over at a reclaiming. -/
structure Leg.Awaits (leg : Leg) (name : String) (since : Stamp) : Prop where
  stays : leg.errand ≠ .close
  away : leg.errand.realigns = true → name ∉ leg.before.offered.map (·.name)
  graced : leg.errand = .reclaim →
    leg.before.clock.now.toInt - since.toInt < leg.before.settings.graceMillis.toInt

namespace Zone

/-- What a reconciliation makes of a cluster that retires: the same producer is active again since
now. Nobody has asked for another one, and it was neither started nor stopped. -/
structure TakenBack (name : String) (id : ProducerId) (before after : Zone) : Prop where
  active : after.active.find? name = some ⟨id, before.clock.now⟩
  retiring : after.retiring.find? name = none
  requests : ∃ asked : List String, name ∉ asked ∧ after.fleet.requests = before.fleet.requests ++
    asked.map fun cluster => before.node.id ++ "/" ++ cluster
  life : ∃ producer latter, before.fleet.find? id = some producer ∧
    after.fleet.find? id = some latter ∧ latter.life = producer.life ∧ producer.phase = .started

/-- Where a cluster is not offered, its entry of retirement stays. -/
theorem Realigned.waits {before after : Zone} (realigned : before.Realigned after)
    (apart : before.Apart) {name : String} {slot : Slot}
    (retires : before.retiring.find? name = some slot)
    (away : name ∉ before.offered.map (·.name)) : after.retiring.find? name = some slot := by
  unfold Realigned at realigned
  split at realigned
  · obtain ⟨_, _, _, _, rfl⟩ := realigned
    exact retires
  · obtain ⟨summary, reconciled⟩ := realigned
    rw [reconciled.retiring, if_neg away, apart.inactive retires, retires]
    rfl

/-- An active cluster that goes into retirement takes its producer along, and the reading of the
clock. -/
theorem Realigned.departs {before after : Zone} (realigned : before.Realigned after)
    (apart : before.Apart) {name : String} {slot entry : Slot}
    (serves : before.active.find? name = some slot)
    (retires : after.retiring.find? name = some entry) :
    entry = slot.restamp after.clock.now := by
  unfold Realigned at realigned
  split at realigned
  · obtain ⟨_, _, _, _, rfl⟩ := realigned
    rw [apart.inactive retires] at serves
    cases serves
  · obtain ⟨summary, reconciled⟩ := realigned
    rw [reconciled.retiring, serves] at retires
    split at retires
    · cases retires
    · exact (Option.some.inj retires).symm

theorem Realigned.takesBack {before after : Zone} (realigned : before.Realigned after)
    (sound : before.Sound) {name : String} {slot : Slot}
    (retires : before.retiring.find? name = some slot)
    (back : name ∈ before.offered.map (·.name)) : TakenBack name slot.producer before after := by
  have offers : before.offered ≠ [] := fun none => by
    rw [none] at back
    cases back
  rw [Realigned, if_neg offers] at realigned
  obtain ⟨summary, reconciled⟩ := realigned
  have absent := sound.apart.inactive retires
  obtain ⟨producer, found, _, started⟩ := sound.backed name slot (.inr retires)
  constructor
  case active => exact reconciled.rescued name back slot absent retires
  case retiring => rw [reconciled.retiring, if_pos back]
  case requests =>
    refine ⟨(before.missing before.offered).map (·.name), ?_, ?_⟩
    · intro member
      obtain ⟨cluster, missing, rfl⟩ := List.mem_map.mp member
      have nowhere := (List.mem_filter.mp missing).2
      simp [NameTable.contains_of_find? retires] at nowhere
    · rw [reconciled.fleet, enlist, List.map_map]
      rfl
  case life => exact ⟨producer, producer, found, reconciled.find?_known found, rfl, started⟩

/-- What is announced afterwards does not concern it. -/
theorem TakenBack.inform {name : String} {id : ProducerId} {before middle after : Zone}
    {current : NameSet} (back : TakenBack name id before middle)
    (informed : Informed current middle after) : TakenBack name id before after := by
  obtain ⟨producer, latter, found, later, same, started⟩ := back.life
  obtain ⟨last, known, alike⟩ := informed.lives.later later
  obtain ⟨_, _, _, _, _, _, rfl⟩ := informed.rest
  exact ⟨back.active, back.retiring, back.requests,
    producer, last, found, known, alike.trans same, started⟩

end Zone

namespace Errand

variable {errand : Errand} {before after : Zone}

/-- An entry of retirement stays on every leg on which its cluster is not offered and it is not
due. -/
theorem waits (effect : errand.Effect before after) (apart : before.Apart) {name : String}
    {slot : Slot} (retires : before.retiring.find? name = some slot)
    (awaits : (Leg.mk errand before after).Awaits name slot.since) :
    after.retiring.find? name = some slot := by
  cases errand with
  | reload =>
    obtain ⟨middle, realigned, _, ⟨_, _, _, _, _, _, rfl⟩, _, _⟩ := effect
    exact realigned.waits apart retires (awaits.away rfl)
  | reconcileClusters => exact effect.waits apart retires (awaits.away rfl)
  | reconcileTopics =>
    obtain ⟨_, _, _, _, _, _, rfl⟩ := effect.rest
    exact retires
  | reclaim =>
    have graced := Int.not_le.mpr (awaits.graced rfl)
    rw [← Holdings.isDue_iff before.settings.graceMillis_nonneg] at graced
    rw [effect.retiring, NameTable.find?_filter, retires,
      Option.filter_some_pos (by simpa using graced)]
  | dispatch batch =>
    obtain ⟨_, _, _, _, _, rfl⟩ := effect.rest
    exact retires
  | close => exact absurd rfl awaits.stays

/-- An active cluster that goes into retirement takes its producer along, and the reading of the
clock. -/
theorem departs (effect : errand.Effect before after) (apart : before.Apart) {name : String}
    {slot : Slot} (serves : before.active.find? name = some slot)
    (retires : after.retiring.contains name = true) :
    after.retiring.find? name = some (slot.restamp after.clock.now) := by
  obtain ⟨entry, found⟩ := NameTable.contains_iff.mp retires
  have early : before.retiring.find? name ≠ some entry := fun earlier => by
    rw [apart name slot serves] at earlier
    cases earlier
  rw [found]
  cases errand with
  | reload =>
    obtain ⟨middle, realigned, _, ⟨_, _, _, _, _, _, rfl⟩, _, _⟩ := effect
    exact congrArg some (realigned.departs apart serves found)
  | reconcileClusters => exact congrArg some (effect.departs apart serves found)
  | reconcileTopics =>
    obtain ⟨_, _, _, _, _, _, rfl⟩ := effect.rest
    exact absurd found early
  | reclaim =>
    rw [effect.retiring, NameTable.find?_filter] at found
    exact absurd (Option.filter_eq_some_iff.mp found).1 early
  | dispatch batch =>
    obtain ⟨_, _, _, _, _, rfl⟩ := effect.rest
    exact absurd found early
  | close =>
    obtain ⟨_, _, _, _, _, _, rfl⟩ := effect.rest
    cases found

theorem takesBack (effect : errand.Effect before after) (realigns : errand.realigns = true)
    (sound : before.Sound) {name : String} {slot : Slot}
    (retires : before.retiring.find? name = some slot)
    (back : name ∈ before.offered.map (·.name)) :
    Zone.TakenBack name slot.producer before after := by
  cases errand with
  | reload =>
    obtain ⟨middle, realigned, _, informed⟩ := effect
    exact (realigned.takesBack sound retires back).inform informed
  | reconcileClusters => exact effect.takesBack sound retires back
  | reconcileTopics | reclaim | dispatch | close => cases realigns

end Errand

namespace Course

/-- The legs before the latest one are a course as well, and led to where it began. -/
theorem back {leg : Leg} {legs : List Leg} {zone : Zone} (course : Course (leg :: legs) zone) :
    Course legs leg.before ∧ ∃ answer,
      leg.errand.work.runAlone Zone.passUntil leg.before = (some answer, leg.after) := by
  generalize all : leg :: legs = whole at course
  induction course with
  | begin => cases all
  | outside _ _ ih => exact ih all
  | errand errand course ran =>
    cases all
    exact ⟨course, _, ran⟩

/-- So are the legs up to any point. -/
theorem upTo {later legs : List Leg} {zone : Zone} (course : Course (later ++ legs) zone) :
    ∃ former, Course legs former := by
  induction later generalizing zone with
  | nil => exact ⟨zone, course⟩
  | cons leg rest ih => exact ih course.back.1

/-- What holds after a leg holds ever since, if whatever happens outside of the pool keeps it and so
does each of the legs that followed. -/
theorem carries {between earlier : List Leg} {leg : Leg} {zone : Zone}
    (course : Course (between ++ leg :: earlier) zone) (holds : Zone → Prop)
    (begins : holds leg.after)
    (outside : ∀ before after, before.Outside after → holds before → holds after)
    (keeps : ∀ next ∈ between, next.before.Sound → next.errand.Effect next.before next.after →
      holds next.before → holds next.after) : holds zone := by
  generalize all : between ++ leg :: earlier = whole at course
  induction course generalizing between with
  | begin => simp at all
  | outside _ change ih => exact outside _ _ change (ih keeps all)
  | errand errand course ran ih =>
    cases between with
    | nil =>
      cases all
      exact begins
    | cons next rest =>
      cases all
      obtain ⟨now, later⟩ := List.forall_mem_cons.mp keeps
      have effect := ((errand.attains course.sound.idle course.sound.apart).of_ran ran).1
      exact now course.sound effect (ih later rfl)

/-- A producer that retired waits as long as nothing happens that ends its retirement. -/
theorem waits {absence earlier : List Leg} {departure : Leg} {zone : Zone} {name : String}
    {slot : Slot} (course : Course (absence ++ departure :: earlier) zone)
    (retires : departure.after.retiring.find? name = some slot)
    (awaits : ∀ leg ∈ absence, leg.Awaits name slot.since) :
    zone.retiring.find? name = some slot := by
  refine course.carries (fun zone => zone.retiring.find? name = some slot) retires ?_
    fun leg member sound effect waiting =>
      leg.errand.waits effect sound.apart waiting (awaits leg member)
  rintro _ _ ⟨⟨_, _, _, rfl⟩, _, _⟩ waiting
  exact waiting

/-- A producer that is not in retirement is not until it goes there. -/
private theorem stays_away {between earlier : List Leg} {leg : Leg} {zone : Zone} {id : ProducerId}
    (course : Course (between ++ leg :: earlier) zone) (away : id ∉ Zone.idsOf leg.after.retiring)
    (never : ∀ leg ∈ between, ¬leg.Retires id) : id ∉ Zone.idsOf zone.retiring := by
  refine course.carries (fun zone => id ∉ Zone.idsOf zone.retiring) away ?_
    fun leg member _ effect away retires => ?_
  · rintro _ _ ⟨⟨_, _, _, rfl⟩, _, _⟩ away
    exact away
  · obtain ⟨name, slot, found, rfl⟩ := Zone.mem_idsOf.mp retires
    rcases leg.errand.ledger effect found with earlier | ⟨active, _⟩
    · exact away (Zone.mem_idsOf.mpr ⟨name, slot, earlier, rfl⟩)
    · exact never leg member ⟨active, retires⟩

/-- A cluster retires with its producer on some leg of a course. On the legs that follow, the pool
is not closed, the cluster is not offered, and whatever is reclaimed is reclaimed before the grace
period is over that began with the retirement. Then a reconciliation to which the cluster is offered
again makes the same producer active, stamped with the reading of the clock, takes it out of
retirement, asks for no other and neither starts nor stops it, and tells of the cluster that it was
rescued and is a route. No later reclaiming touches the producer unless it retires once more. -/
theorem retired_cluster_rescued {later absence earlier : List Leg} {comeback departure : Leg}
    {zone : Zone} {name : String} {slot : Slot}
    (course : Course (later ++ comeback :: (absence ++ departure :: earlier)) zone)
    (serves : departure.before.active.find? name = some slot)
    (retires : departure.after.retiring.contains name = true)
    (awaits : ∀ leg ∈ absence, leg.Awaits name departure.after.clock.now)
    (realigns : comeback.errand.realigns = true)
    (back : name ∈ comeback.before.offered.map (·.name)) :
    Zone.TakenBack name slot.producer comeback.before comeback.after ∧
    (∃ summary, comeback.errand.work.runAlone Zone.passUntil comeback.before =
      (some (.summary summary), comeback.after) ∧
        name ∈ summary.rescued ∧ name ∈ summary.routes) ∧
    ∀ newer reclaiming between, later = newer ++ reclaiming :: between →
      reclaiming.errand = .reclaim → (∀ leg ∈ between, ¬leg.Retires slot.producer) →
        reclaiming.after.fleet.find? slot.producer =
          reclaiming.before.fleet.find? slot.producer := by
  obtain ⟨former, whole⟩ := course.upTo
  obtain ⟨past, answer, ran⟩ := whole.back
  obtain ⟨_, departed⟩ := past.upTo
  obtain ⟨sound, effect⟩ := departed.effect List.mem_cons_self
  have waiting := past.waits (departure.errand.departs effect sound.apart serves retires) awaits
  have taken :=
    Errand.takesBack (whole.effect List.mem_cons_self).2 realigns past.sound waiting back
  refine ⟨taken, ?_, ?_⟩
  · have offers : comeback.before.offered ≠ [] := fun none => by
      rw [none] at back
      cases back
    have answers := (Errand.realigns_answers realigns past.sound.idle past.sound.apart
      offers).of_ran ran
    have origin : comeback.before.origin name = .rescued := Zone.origin_rescued_iff.mpr
      ⟨NameTable.contains_eq_false_iff.mpr (past.sound.apart.inactive waiting),
        NameTable.contains_of_find? waiting⟩
    refine ⟨_, by rw [ran, answers], Zone.mem_ofOrigin.mpr ⟨back, origin⟩,
      Zone.mem_servable.mpr ⟨back, ?_⟩⟩
    rw [origin]
    simp
  · rintro newer reclaiming between rfl errand never
    rw [List.append_assoc] at course
    obtain ⟨_, reached⟩ := course.upTo
    have fresh : slot.producer ∉ Zone.idsOf comeback.after.retiring := by
      intro member
      obtain ⟨other, entry, retires, same⟩ := Zone.mem_idsOf.mp member
      refine (past.errand _ ran).sound.retires_inactive retires ?_
      exact Zone.mem_idsOf.mpr ⟨name, _, taken.active, same.symm⟩
    have spared := reached.back.1.stays_away fresh never
    obtain ⟨sound, effect⟩ := reached.effect List.mem_cons_self
    rw [errand] at effect
    rw [effect.fleet, Fleet.find?_stopEach _ (sound.idsOf_nodup Zone.Sound.due_holds), if_neg]
    intro due
    obtain ⟨other, entry, found, same⟩ := Zone.mem_idsOf.mp due
    exact spared (Zone.mem_idsOf.mpr ⟨other, entry, (Zone.Sound.find?_due.mp found).1, same⟩)

/-- One of two clusters is away for three seconds, in which something is sent and reclaimed, and is
there again from then on. A minute later something is reclaimed once more. -/
def holiday : List Leg × Zone :=
  let both : Inventory := { clusters := [{ name := "A" }, { name := "B" }] }
  let one : Inventory := { clusters := [{ name := "B" }] }
  errands blank [(both, 0, .reload), (one, 1000, .reload), (one, 2000, .dispatch none),
    (one, 3000, .reclaim), (both, 4000, .reconcileClusters), (both, 64000, .reclaim)]

private theorem holiday_course : Course holiday.1 holiday.2 := of_errands blank_built rfl _

/-- The cluster that was away is served by its first producer again, which the last reclaiming
leaves alone although it retired more than a minute ago. -/
theorem retired_cluster_rescued_of_holiday : holiday.2.active.find? "A" = some ⟨0, 4000⟩ ∧
    (∃ summary, (holiday.1[1]?.map fun leg =>
      (leg.errand.work.runAlone Zone.passUntil leg.before).1) = some (some (.summary summary)) ∧
        "A" ∈ summary.rescued) ∧
    ∀ reclaiming, holiday.1.head? = some reclaiming →
      reclaiming.after.fleet.find? 0 = reclaiming.before.fleet.find? 0 := by
  have course : Course ([_] ++ _ :: ([_, _] ++ _ :: [_])) holiday.2 := holiday_course
  obtain ⟨taken, ⟨summary, ran, rescued, _⟩, spared⟩ :=
    @retired_cluster_rescued _ _ _ _ _ _ "A" ⟨0, 0⟩ course rfl rfl
      (List.forall_mem_cons.mpr ⟨⟨nofun, nofun, fun _ => by decide⟩,
        List.forall_mem_singleton.mpr ⟨nofun, nofun, nofun⟩⟩) rfl (by decide)
  refine ⟨taken.active, ⟨summary, ?_, rescued⟩, ?_⟩
  · exact congrArg (some ·.1) ran
  · rintro reclaiming latest
    cases latest
    exact spared [] _ [] rfl rfl (List.forall_mem_nil _)

end Course
end ClusterPool
