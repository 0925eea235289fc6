import ClusterPool.Proofs.Program.Stretches
import ClusterPool.Proofs.Zone.Routing
import ClusterPool.Zone.Schedule

/-! What a background task does in its turns. The work of a turn leaves all tasks alone and makes no
time pass, so that the only thing it changes about its task is how the turn ended. -/
namespace ClusterPool
open Program

/-- Going on with work makes changes that add up to an allowed one, and what is left of it makes no
others. -/
theorem Program.Within.advance {allowed : σ → σ → Prop} {work : Program σ α}
    (within : work.Within allowed) (still : ∀ state, allowed state state)
    (adds : ∀ {first second third}, allowed first second → allowed second third →
      allowed first third) (note : σ → ω → ω) (state : σ) (noted : ω) :
    allowed state (work.advance note state noted).2.1 ∧
      ∀ rest, (work.advance note state noted).1 = .paused rest → rest.next.Within allowed := by
  induction work generalizing state noted with
  | done value => exact ⟨still state, nofun⟩
  | crash => exact ⟨still state, nofun⟩
  | act change next ih =>
    obtain ⟨allows, later⟩ := within state
    obtain ⟨onward, left⟩ := ih state later (change state) (note (change state) noted)
    exact ⟨adds allows onward, left⟩
  | pause wake next =>
    refine ⟨still state, ?_⟩
    rintro rest ⟨⟩
    exact within
  | mark next ih => exact ih within state noted

namespace Zone

/-- The background tasks and the clock are left alone. -/
structure Aloof (before after : Zone) : Prop where
  upkeeps : after.upkeeps = before.upkeeps
  clock : after.clock = before.clock

namespace Aloof

theorem refl (zone : Zone) : Aloof zone zone := ⟨rfl, rfl⟩

theorem trans {first second third : Zone} (early : Aloof first second) (late : Aloof second third) :
    Aloof first third := ⟨late.upkeeps.trans early.upkeeps, late.clock.trans early.clock⟩

/-- No time passes. -/
theorem now {before after : Zone} (aloof : Aloof before after) : after.now = before.now :=
  congrArg Clock.elapsed aloof.clock

end Aloof

/-- Nor does anybody come to a gate, or leave one. -/
structure Discreet (before after : Zone) : Prop extends Aloof before after where
  reloading : after.reloading = before.reloading
  bookkeeping : after.bookkeeping = before.bookkeeping

theorem Discreet.refl (zone : Zone) : Discreet zone zone := ⟨.refl zone, rfl, rfl⟩

theorem Discreet.trans {first second third : Zone} (early : Discreet first second)
    (late : Discreet second third) : Discreet first third :=
  ⟨early.toAloof.trans late.toAloof, late.reloading.trans early.reloading,
    late.bookkeeping.trans early.bookkeeping⟩

theorem finishStart_discreet (id : ProducerId) (zone : Zone) :
    Discreet zone (finishStart id zone).2 := by
  unfold finishStart withFleet
  dsimp only
  split <;> exact ⟨⟨rfl, rfl⟩, rfl, rfl⟩

theorem publishFirst_discreet (topics : NameSet) (cluster : Cluster) (id : ProducerId)
    (zone : Zone) : Discreet zone (zone.publishFirst topics cluster id) := by
  unfold publishFirst withFleet
  dsimp only
  split
  · exact .refl zone
  · split <;> exact ⟨⟨rfl, rfl⟩, rfl, rfl⟩

theorem activate_discreet (cluster : Cluster) (id : ProducerId) (now : Stamp) (zone : Zone) :
    Discreet zone (activate cluster id now zone).2 := by
  unfold activate
  split <;> exact ⟨⟨rfl, rfl⟩, rfl, rfl⟩

private theorem classify_discreet (now : Stamp) (division : Division) (cluster : Cluster)
    (zone : Zone) : Discreet zone (classify now division cluster zone).2 := by
  unfold classify
  split
  · exact .refl zone
  · split <;> exact ⟨⟨rfl, rfl⟩, rfl, rfl⟩

theorem divide_discreet (now : Stamp) (order : List Cluster) (zone : Zone) :
    Discreet zone (divide now order zone).2 := by
  unfold divide
  generalize ({} : Division) = division
  induction order generalizing division zone with
  | nil => exact .refl zone
  | cons cluster rest ih => exact (classify_discreet now division cluster zone).trans (ih _ _)

theorem conclude_discreet (summary : Summary) (zone : Zone) :
    Discreet zone (conclude summary zone) := by
  obtain ⟨_, _, rest⟩ := conclude_rest summary zone
  rw [rest]
  exact ⟨⟨rfl, rfl⟩, rfl, rfl⟩

theorem absorbTopics_discreet (current : NameSet) (zone : Zone) :
    Discreet zone (absorbTopics current zone).2 := by
  obtain ⟨_, _, _, _, rest⟩ := absorbTopics_rest current zone
  rw [rest]
  exact ⟨⟨rfl, rfl⟩, rfl, rfl⟩

private theorem aloof_tolerant : Tolerant Aloof :=
  ⟨fun _ _ _ => ⟨rfl, rfl⟩, fun _ _ => ⟨rfl, rfl⟩⟩

private theorem createProducer_aloof (topics : NameSet) (cluster : Cluster) :
    (createProducer topics cluster).Within Aloof := by
  refine createProducer_within (fun _ => ⟨rfl, rfl⟩) (fun id => ?_) fun id zone => ?_
  · exact aloof_tolerant.startProducer (fun _ => ⟨rfl, rfl⟩) fun zone =>
      (finishStart_discreet id zone).toAloof
  · exact (publishFirst_discreet topics cluster id zone).toAloof.trans ⟨rfl, rfl⟩

private theorem stopProducer_aloof (cluster : String) (id : ProducerId) (role : Role) :
    (stopProducer cluster id role).Within Aloof :=
  aloof_tolerant.stopProducer (fun _ => ⟨rfl, rfl⟩) cluster role

private theorem reconcileClusters_aloof : reconcileClusters.Within Aloof :=
  aloof_tolerant.reconcileClusters fun _ => aloof_tolerant.adopt
    (fun now zone => (divide_discreet now _ zone).toAloof) createProducer_aloof
    (fun cluster id now zone => (activate_discreet cluster id now zone).toAloof)
    (fun cluster id => stopProducer_aloof cluster id .duplicate) (fun _ _ => ⟨rfl, rfl⟩)
    (fun _ _ _ => ⟨rfl, rfl⟩) fun summary zone => (conclude_discreet summary zone).toAloof

private theorem reconcileTopics_aloof : reconcileTopics.Within Aloof :=
  aloof_tolerant.reconcileTopics fun current zone => (absorbTopics_discreet current zone).toAloof

theorem reload_aloof : reload.Within Aloof :=
  (reconcileClusters_aloof.bind (aloof_tolerant.afterClusters reconcileTopics_aloof)).inside
    .refl (fun _ => ⟨rfl, rfl⟩) fun _ => ⟨rfl, rfl⟩

theorem reclaim_aloof : reclaim.Within Aloof :=
  aloof_tolerant.reclaim (fun _ _ => ⟨rfl, rfl⟩) fun cluster id =>
    stopProducer_aloof cluster id .expired

/-- The work of a turn leaves all tasks alone. -/
theorem turnWork_aloof (turn : ClusterPool.Turn) : (turnWork turn).Within Aloof := by
  cases turn with
  | stop => exact within_done
  | reload => exact (aloof_tolerant.report _).bind fun _ => reload_aloof.bind fun _ => within_done
  | reclaim => exact reclaim_aloof.bind fun _ => within_done

/-- How a task stands that was changed in its place among the tasks. -/
theorem held_modify {index : Nat} {zone : Zone} {upkeeps : List Upkeep} {upkeep : Upkeep}
    {change : Upkeep → Upkeep} (held : upkeeps[index]? = some upkeep)
    (changed : zone.upkeeps = upkeeps.modify index change) :
    zone.upkeeps[index]? = some (change upkeep) := by
  rw [changed, List.getElem?_modify_eq, held]
  rfl

/-- The first turn of a task changes nothing else. -/
theorem beginUpkeep_rest {index : Nat} {zone : Zone} {upkeep : Upkeep}
    (held : zone.upkeeps[index]? = some upkeep) :
    (zone.beginUpkeep index).now = zone.now ∧ (zone.beginUpkeep index).upkeeps =
      zone.upkeeps.modify index fun _ => upkeep.begin zone.now := by
  simp only [beginUpkeep, held]
  split <;> exact ⟨rfl, rfl⟩

theorem beginUpkeep_held {index : Nat} {zone : Zone} {upkeep : Upkeep}
    (held : zone.upkeeps[index]? = some upkeep) :
    (zone.beginUpkeep index).upkeeps[index]? = some (upkeep.begin zone.now) := by
  have begun := held_modify held (beginUpkeep_rest held).2
  exact begun

/-- A task that has something to do in its turn puts the next one off. -/
theorem takeTurn_works {index : Nat} {zone after : Zone} {turn : ClusterPool.Turn}
    {work : Program Zone Unit}
    (taken : zone.takeTurn index turn = (some work, after)) : turn ≠ .stop ∧ work = turnWork turn ∧
      after = zone.updateUpkeep index fun upkeep => upkeep.take zone.now turn := by
  cases turn with
  | stop => cases taken
  | reload | reclaim =>
    cases taken
    exact ⟨nofun, rfl, rfl⟩

/-- Only in its last turn has a task nothing to do. -/
theorem takeTurn_stops {index : Nat} {zone after : Zone} {turn : ClusterPool.Turn}
    (taken : zone.takeTurn index turn = (none, after)) :
    turn = .stop ∧ after = (zone.takeTurn index .stop).2 := by
  cases turn with
  | stop => exact ⟨rfl, congrArg Prod.snd taken.symm⟩
  | reload | reclaim => cases taken

end Zone

namespace Stage

/-- A stage lets work go on as far as it comes by itself. -/
theorem advance_stretch (work : Program Zone α) (stage : Stage) :
    work.stretch stage.zone = ((stage.advance work).1, (stage.advance work).2.zone) :=
  Program.advance_stretch (call stage.turns) work stage.zone stage.queue

/-- How a stage stands once a task went on with a turn: the turn is over, or was given up, or
pauses. -/
theorem doTurn_cases {index : Nat} {work : Program Zone Unit} {stage after : Stage}
    {completed : Bool} (within : work.Within Zone.Aloof)
    (did : doTurn index work stage = (completed, after)) :
    after.zone.now = stage.zone.now ∧ completed = (stage.advance work).1.isFinished ∧
      ((∃ phase, phase = (if completed then .idle else .lost) ∧ after.turns = stage.turns ∧
        after.zone.upkeeps = stage.zone.upkeeps.modify index fun upkeep => { upkeep with phase }) ∨
      (∃ rest, (stage.advance work).1 = .paused rest ∧ completed = false ∧
        rest.next.Within Zone.Aloof ∧ after.turns = (index, rest) :: stage.turns ∧
        after.zone.upkeeps = stage.zone.upkeeps)) := by
  obtain ⟨aloof, left⟩ :=
    within.advance .refl .trans (call stage.turns) stage.zone stage.queue
  unfold doTurn Stage.advance at did
  unfold Stage.advance
  generalize Program.advance (call stage.turns) work stage.zone stage.queue = result at aloof left did ⊢
  obtain ⟨standing, zone, queue⟩ := result
  cases standing with
  | finished value =>
    obtain ⟨rfl, rfl⟩ := Prod.mk.inj did
    refine ⟨aloof.now, rfl, .inl ⟨_, rfl, rfl, ?_⟩⟩
    rw [← aloof.upkeeps]
    rfl
  | crashed =>
    obtain ⟨rfl, rfl⟩ := Prod.mk.inj did
    refine ⟨aloof.now, rfl, .inl ⟨_, rfl, rfl, ?_⟩⟩
    rw [← aloof.upkeeps]
    rfl
  | paused rest =>
    obtain ⟨rfl, rfl⟩ := Prod.mk.inj did
    exact ⟨aloof.now, rfl, .inr ⟨rest, rfl, rfl, left rest rfl, rfl, aloof.upkeeps⟩⟩

end Stage
end ClusterPool
