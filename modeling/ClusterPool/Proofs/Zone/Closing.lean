import ClusterPool.Proofs.Zone.Overlap

/-! What a closing does to a zone in which clusters are reconciled meanwhile: each of its moments,
and the whole of it. -/
namespace ClusterPool
namespace Zone
open Program

private theorem settle_still (last : Option StopReport) (zone : Zone) :
    Still zone (zone.settle last) := by
  obtain ⟨_, _, rest⟩ := settle_rest last zone
  rw [rest]
  exact .of_notes zone _ _ _ _ _

namespace Shared

variable {first : ProducerId} {zone : Zone} {revision : Revision} {closing : Closing}

/-- It comes to the gate of the tables, is admitted, or leaves. -/
theorem passClosing (shared : Shared first zone revision closing) {bookkeeping : Turnstile}
    {pass : Pass} (passes : Passes bookkeeping revision.pass pass) (done : closing.pending = [])
    (drained : closing.drained = true → closing.listed ≠ none) :
    Shared first { zone with bookkeeping } revision { closing with pass } :=
  { shared with
    passes := passes
    draining := fun drains none => absurd none (drained drains)
    emptying := fun some => absurd done some }

/-- It takes what retires. -/
theorem drain (shared : Shared first zone revision { pass := .inside }) :
    Shared first { zone with retiring := .empty } revision
      { pass := .inside, drained := true, custody := idsOf zone.retiring } := by
  have held : ∀ {id}, id ∈ idsOf zone.retiring → ∃ name slot,
      zone.retiring.find? name = some slot ∧ slot.producer = id := mem_idsOf.mp
  have kept : ∀ {name slot}, { zone with retiring := .empty }.Holds name slot →
      zone.active.find? name = some slot := fun holds => holds.resolve_right nofun
  exact { shared with
    apart := fun _ _ _ => rfl
    backed := fun name slot holds => shared.backed name slot (.inl (kept holds))
    held := fun id producer found started => by
      rcases shared.held id producer found started with ⟨since, active | retires⟩ | hand | ⟨⟨⟩⟩
      · exact .inl ⟨since, .inl active⟩
      · exact .inr (.inr (mem_idsOf.mpr ⟨_, _, retires, rfl⟩))
      · exact .inr (.inl hand)
    spared := fun id producer new found stopped => by
      obtain ⟨_, ⟨⟩, _⟩ := shared.spared id producer new found stopped
    veterans := nofun
    absent := fun name member => by
      obtain ⟨inactive, _, inside⟩ := shared.absent name member
      exact ⟨inactive, rfl, inside⟩
    custody := fun id name phase hand => by
      obtain ⟨found, new, free, _, _⟩ := shared.custody id name phase hand
      refine ⟨found, new, fun other slot holds => free other slot (.inl (kept holds)), ?_, nofun⟩
      intro member
      obtain ⟨other, slot, retires, same⟩ := held member
      exact free other slot (.inr retires) same
    drained := fun _ => rfl
    known := nofun
    taken := fun id member => by
      obtain ⟨name, slot, retires, rfl⟩ := held member
      obtain ⟨producer, found, _⟩ := shared.backed name slot (.inr retires)
      refine ⟨⟨producer, found⟩, fun other twin holds same => ?_,
        .inl (shared.veterans name slot retires)⟩
      have active := kept holds
      obtain rfl := shared.unique (.inl active) (.inr retires) same
      rw [shared.apart other twin active] at retires
      cases retires
    draining := fun _ _ => rfl
    order := nofun }

/-- It stops a producer that it has taken. -/
theorem stop {id : ProducerId} {rest : List ProducerId}
    (shared : Shared first zone revision { closing with custody := id :: rest }) :
    Shared first { zone with fleet := (zone.fleet.stop id).2 } revision
      { closing with custody := rest } := by
  obtain ⟨⟨producer, known⟩, unheld, early⟩ := shared.taken id List.mem_cons_self
  rw [Fleet.stop_updates]
  have others : ∀ {other}, other ≠ id →
      (zone.fleet.update id fun producer => producer.stop.2).find? other =
        zone.fleet.find? other := fun differs => Fleet.find?_update_other differs zone.fleet _
  have itself : (zone.fleet.update id fun producer => producer.stop.2).find? id =
      some producer.stop.2 := Fleet.find?_update_self known _
  have stops : producer.stop.2.phase = .stopped := by
    rw [Producer.stop_stops (shared.settled id producer known)]
  -- Whoever is in another phase than the stopped one is somebody else.
  have spares : ∀ {other latter},
      (zone.fleet.update id fun producer => producer.stop.2).find? other = some latter →
        latter.phase ≠ .stopped → zone.fleet.find? other = some latter ∧ other ≠ id := by
    intro other latter found runs
    have differs : other ≠ id := by
      rintro rfl
      cases itself.symm.trans found
      exact runs stops
    exact ⟨others differs ▸ found, differs⟩
  exact { shared with
    backed := fun name slot holds => by
      rw [others (unheld name slot holds)]
      exact shared.backed name slot holds
    held := fun other latter found started => by
      obtain ⟨former, differs⟩ := spares found (by simp [started])
      exact (shared.held other latter former started).imp_right fun hands =>
        hands.imp_right fun member => (List.mem_cons.mp member).resolve_left differs
    settled := fun other latter found stopping => by
      obtain ⟨former, _⟩ := spares found (by simp [stopping])
      exact shared.settled other latter former stopping
    earlier := fun other inside => Fleet.update_lasts (shared.earlier other inside) id _
    spared := fun other latter new found stopped => by
      by_cases same : other = id
      · subst same
        exact early.resolve_left (Nat.not_lt.mpr new)
      · exact shared.spared other latter new (others same ▸ found) stopped
    custody := fun other name phase hand => by
      obtain ⟨found, new, free, untaken, unlisted⟩ := shared.custody other name phase hand
      obtain ⟨differs, elsewhere⟩ := not_or.mp (mt List.mem_cons.mpr untaken)
      rw [others differs]
      exact ⟨found, new, free, elsewhere, unlisted⟩
    known := fun other has => Fleet.update_lasts (shared.known other has) id _
    taken := fun other member => by
      obtain ⟨found, free, listed⟩ := shared.taken other (List.mem_cons_of_mem _ member)
      exact ⟨Fleet.update_lasts found id _, free, listed⟩ }

/-- It lists what is active. -/
theorem list (shared : Shared first zone revision { pass := .inside, drained := true }) :
    Shared first zone revision
      { pass := .inside, drained := true, listed := some zone.active
        pending := zone.active.names } := by
  have has : ∀ {id}, Closing.Has { listed := some zone.active } id ↔ ∃ name slot,
      zone.active.find? name = some slot ∧ slot.producer = id :=
    (Closing.has_iff rfl).trans mem_idsOf
  exact { shared with
    spared := fun id producer new found stopped => by
      obtain ⟨_, ⟨⟩, _⟩ := shared.spared id producer new found stopped
    custody := fun id name phase hand => by
      obtain ⟨found, new, free, untaken, _⟩ := shared.custody id name phase hand
      refine ⟨found, new, free, untaken, fun listed => ?_⟩
      obtain ⟨other, slot, active, same⟩ := has.mp listed
      exact free other slot (.inl active) same
    serving := fun chosen name route =>
      .inl ((shared.serving chosen name route).resolve_right (by rintro ⟨_, ⟨⟩, _⟩))
    listed := fun _ name slot found _ =>
      NameTable.mem_names_iff.mpr (NameTable.contains_of_find? found)
    known := fun id listed => by
      obtain ⟨name, slot, active, rfl⟩ := has.mp listed
      obtain ⟨producer, found, _⟩ := shared.backed name slot (.inl active)
      exact ⟨producer, found⟩
    pending := fun name member => by
      have contained := NameTable.mem_names_iff.mp member
      obtain ⟨slot, active⟩ := NameTable.contains_iff.mp contained
      exact ⟨⟨zone.active, rfl, contained⟩, slot, active, has.mpr ⟨name, slot, active, rfl⟩⟩
    pendingOnce := NameTable.names_nodup _
    taken := List.forall_mem_nil _
    draining := nofun
    emptying := fun _ => rfl
    order := fun _ => rfl
    finished := nofun }

/-- It takes the next cluster that it has listed, which is still active. -/
theorem take {name : String} {rest : List String} {listed : Holdings}
    (shared : Shared first zone revision
      { pass := .inside, drained := true, listed := some listed, pending := name :: rest }) :
    ∃ slot, (takeActive name zone).1 = [(name, slot)] ∧
      Shared first (takeActive name zone).2 revision
        { pass := .inside, drained := true, listed := some listed, pending := rest
          custody := [slot.producer] } := by
  obtain ⟨lists, slot, found, has⟩ := shared.pending name List.mem_cons_self
  obtain ⟨distinct, once⟩ := List.nodup_cons.mp shared.pendingOnce
  have takes : takeActive name zone =
      ([(name, slot)], { zone with active := zone.active.erase name }) := by
    rw [takeActive, Holdings.take?, found]
    rfl
  rw [takes]
  refine ⟨slot, rfl, ?_⟩
  have remains : ∀ {other twin}, (zone.active.erase name).find? other = some twin →
      other ≠ name ∧ zone.active.find? other = some twin := by
    intro other twin stays
    rw [NameTable.find?_erase] at stays
    split at stays
    · cases stays
    · exact ⟨‹_›, stays⟩
  have others : ∀ {other}, other ≠ name →
      (zone.active.erase name).find? other = zone.active.find? other := fun differs => by
    rw [NameTable.find?_erase, if_neg differs]
  have kept : ∀ {other twin}, { zone with active := zone.active.erase name }.Holds other twin →
      zone.Holds other twin := fun holds => holds.imp_left fun active => (remains active).2
  exact { shared with
    apart := fun other twin active => shared.apart other twin (remains active).2
    backed := fun other twin holds => shared.backed other twin (kept holds)
    held := fun id producer known started => by
      rcases shared.held id producer known started with ⟨since, active | retires⟩ | hand | ⟨⟨⟩⟩
      · by_cases same : producer.cluster.name = name
        · rw [same, found] at active
          exact .inr (.inr (List.mem_singleton.mpr (congrArg Slot.producer
            (Option.some.inj active)).symm))
        · exact .inl ⟨since, .inl ((others same).trans active)⟩
      · exact .inl ⟨since, .inr retires⟩
      · exact .inr (.inl hand)
    newcomers := fun other twin active => shared.newcomers other twin (remains active).2
    absent := fun other member => by
      obtain ⟨inactive, elsewhere⟩ := shared.absent other member
      refine ⟨?_, elsewhere⟩
      rw [NameTable.find?_erase, inactive, ite_self]
    custody := fun id cluster phase hand => by
      obtain ⟨known, new, free, _, unlisted⟩ := shared.custody id cluster phase hand
      refine ⟨known, new, fun other twin holds => free other twin (kept holds), ?_, unlisted⟩
      intro member
      exact free name slot (.inl found) (List.mem_singleton.mp member).symm
    serving := fun chosen other route => by
      by_cases same : other = name
      · exact .inr (same ▸ lists)
      · refine (shared.serving chosen other route).imp_left fun active => ?_
        rw [NameTable.contains, others same]
        exact active
    listed := fun _ other twin active early => by
      obtain ⟨differs, before⟩ := remains active
      exact (List.mem_cons.mp (shared.listed (by simp) other twin before early)).resolve_left differs
    pending := fun other member => by
      obtain ⟨lists, twin, active, listed⟩ := shared.pending other (List.mem_cons_of_mem _ member)
      have differs : other ≠ name := fun same => distinct (same ▸ member)
      exact ⟨lists, twin, (others differs).trans active, listed⟩
    pendingOnce := once
    taken := fun id member => by
      obtain rfl := List.mem_singleton.mp member
      obtain ⟨producer, known, _⟩ := shared.backed name slot (.inl found)
      refine ⟨⟨producer, known⟩, fun other twin holds same => ?_, .inr has⟩
      obtain rfl := shared.unique (kept holds) (.inl found) same
      rcases holds with active | retires
      · exact (remains active).1 rfl
      · rw [shared.apart other slot found] at retires
        cases retires
    emptying := fun _ => rfl
    finished := by rintro ⟨⟩
    routes := by rintro ⟨⟩ }

/-- It clears the routes. -/
theorem clear (shared : Shared first zone revision closing) (listed : closing.listed ≠ none)
    (done : closing.pending = []) :
    Shared first { zone with rotation := zone.rotation.clear } revision
      { closing with cleared := true } :=
  { shared with
    finished := fun _ => ⟨listed, done⟩
    routes := fun _ => .inl rfl }

end Shared

/-- A closing that answers the active clusters that it has listed. -/
def closeListing : Program Zone Holdings := do
  bookGate.enter
  let last ← stopAll .retiring none (← .perform takeRetiring)
  let listed := (← .get).active
  finishClose (← stopActive last listed.names)
  return listed

/-- A closing that answers what it has listed is a closing, moment for moment. -/
theorem closeListing_close : (closeListing.bind fun _ => done ()) = close := by
  unfold closeListing close beginClose
  simp only [bind_eq_bind, Program.bind_assoc]
  rfl

/-- How a zone stands to the two parties, as the closing sees it. -/
abbrev SharedBy (first : ProducerId) (zone : Zone) (closing : Closing) (revision : Revision) :
    Prop :=
  Shared first zone revision closing

variable {first : ProducerId}

private theorem sharedBy_calm (first : ProducerId) : Calm (SharedBy first) :=
  fun _ _ _ _ still shared => shared.still still

/-- Whatever is stopped had been taken, and is no longer in anybody's hands then. -/
private theorem stopAll_closes (role : Role) (closing : Closing)
    (held : List (String × Slot)) (last : Option StopReport) :
    (stopAll role last held).Guards neighbourhood (SharedBy first)
      (fun _ later => later = { closing with custody := [] })
      { closing with custody := held.map (·.2.producer) } := by
  induction held generalizing last with
  | nil => exact rfl
  | cons entry rest ih =>
    refine Guards.bind ((sharedBy_calm first).modify (settle_still last) ?_)
    refine Guards.bind (Guards.bind (.perform fun zone revision shared => ?_))
    refine ⟨{ closing with custody := rest.map (·.2.producer) }, shared.stop, ?_⟩
    exact Guards.bind (.look fun zone => Guards.bind (rest_guards _ (ih _)))

/-- Each of the clusters that were listed is taken and stopped. -/
private theorem stopActive_closes {listed : Holdings} (pending : List String)
    (last : Option StopReport) :
    (stopActive last pending).Guards neighbourhood (SharedBy first)
      (fun _ later => later = { pass := .inside, drained := true, listed := some listed })
      { pass := .inside, drained := true, listed := some listed, pending } := by
  induction pending generalizing last with
  | nil => exact rfl
  | cons cluster rest ih =>
    refine Guards.bind (.perform fun zone revision shared => ?_)
    obtain ⟨slot, taken, left⟩ := shared.take
    rw [taken]
    refine ⟨_, left, Guards.bind (Guards.mono (stopAll_closes .active
      { pass := .inside, drained := true, listed := some listed, pending := rest } _ last) ?_)⟩
    rintro last _ rfl
    exact ih last

private theorem finishClose_closes {listed : Holdings} (last : Option StopReport) :
    (finishClose last).Guards neighbourhood (SharedBy first)
      (fun _ later => later = { drained := true, listed := some listed, cleared := true })
      { pass := .inside, drained := true, listed := some listed } := by
  refine Guards.bind (.modify fun zone revision shared => ?_)
  have settled := shared.still (settle_still last zone)
  refine ⟨_, settled.passClosing settled.passes.symm.leave.symm rfl nofun, ?_⟩
  refine Guards.bind (.modify fun zone revision shared => ⟨_, shared.clear nofun rfl, ?_⟩)
  refine Guards.bind ((sharedBy_calm first).modify (fun zone => .of_notes zone _ _ _ _ _) ?_)
  exact (sharedBy_calm first).modify (fun zone => .of_notes zone _ _ _ _ _) rfl

/-- A closing comes to its end with nothing left to do, whatever a reconciliation does meanwhile. -/
theorem closeListing_closes :
    closeListing.Guards neighbourhood (SharedBy first)
      (fun listed later =>
        later = { drained := true, listed := some listed, cleared := true }) {} := by
  refine Guards.bind fun zone revision shared => ?_
  refine ⟨{ pass := .waiting zone.bookkeeping.issued },
    shared.passClosing shared.passes.symm.enter.symm rfl nofun, ?_⟩
  refine .waitFor fun zone revision shared served => ?_
  refine ⟨{ pass := .inside },
    shared.passClosing (shared.passes.symm.admitted (beq_iff_eq.mp served)).symm rfl nofun, ?_⟩
  refine Guards.bind (.perform fun zone revision shared => ⟨_, shared.drain, ?_⟩)
  refine Guards.bind (Guards.mono
    (stopAll_closes .retiring { pass := .inside, drained := true } _ none) ?_)
  rintro last _ rfl
  refine Guards.bind (.get fun zone revision shared => ⟨_, shared.list, ?_⟩)
  refine Guards.bind ((stopActive_closes zone.active.names last).mono ?_)
  rintro last _ rfl
  refine Guards.bind ((finishClose_closes last).mono ?_)
  rintro _ _ rfl
  rfl

end Zone
end ClusterPool
