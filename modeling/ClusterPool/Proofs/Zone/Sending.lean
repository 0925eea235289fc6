import ClusterPool.Proofs.Fleet
import ClusterPool.Proofs.Program.Alone
import ClusterPool.Zone.Dispatch

/-! What a dispatch leaves alone, whatever else goes on in the zone: the tables, the names of the
routes, the topics, and the life of every producer. -/
namespace ClusterPool.Zone
open Program

/-- Nothing differs but the cursor of the routes, what producers took, what was counted and
reported, and how many batches were numbered. -/
structure Steady (before after : Zone) : Prop where
  rest : ∃ cursor producers tally journal numbered, after =
    { before with
      rotation := { before.rotation with cursor }
      fleet := { before.fleet with producers }, tally, journal, numbered }
  producers : Fleet.Alike Producer.standing before.fleet after.fleet

namespace Steady

theorem refl (zone : Zone) : Steady zone zone := ⟨⟨_, _, _, _, _, rfl⟩, .refl zone.fleet⟩

theorem trans {first second third : Zone} (early : Steady first second)
    (late : Steady second third) : Steady first third := by
  refine ⟨?_, early.producers.trans late.producers⟩
  obtain ⟨_, _, _, _, _, rfl⟩ := early.rest
  obtain ⟨_, _, _, _, _, rfl⟩ := late.rest
  exact ⟨_, _, _, _, _, rfl⟩

theorem topics {before after : Zone} (steady : Steady before after) :
    after.topics = before.topics := by
  obtain ⟨_, _, _, _, _, rfl⟩ := steady.rest
  rfl

end Steady

theorem pick_steady (snapshot : Snapshot) (zone : Zone) :
    Steady zone (zone.withRotation fun rotation => rotation.pick snapshot).2 :=
  ⟨⟨_, _, _, _, _, rfl⟩, .refl zone.fleet⟩

theorem lookUp_steady (cluster : String) (zone : Zone) :
    Steady zone (lookUp cluster zone).2 := by
  unfold lookUp
  split
  · exact .refl zone
  · exact ⟨⟨_, _, _, _, _, rfl⟩, .refl zone.fleet⟩

theorem deliver_steady (batch : Batch) (id : ProducerId) (zone : Zone) :
    Steady zone (deliver batch id zone).2 := by
  have sent := Fleet.send_updates zone.fleet id batch
  have alike := zone.fleet.update_alike id (Producer.send_standing batch)
  unfold deliver withFleet
  dsimp only
  split <;> exact ⟨⟨_, _, _, _, _, by rw [sent]; rfl⟩, by exact sent ▸ alike⟩

theorem unroutable_steady (zone : Zone) : Steady zone (unroutable zone).2 :=
  ⟨⟨_, _, _, _, _, rfl⟩, .refl zone.fleet⟩

theorem tryRoutes_promptly (batch : Batch) (snapshot : Snapshot) (attempts : Nat) :
    (tryRoutes batch snapshot attempts).Promptly Steady := by
  induction attempts with
  | zero => trivial
  | succ attempts ih =>
    refine Promptly.bind (.perform (pick_steady snapshot)) fun cluster => ?_
    refine Promptly.bind (.perform (lookUp_steady cluster)) fun looked => ?_
    cases looked with
    | none => exact ih
    | some id => exact Promptly.bind (.perform (deliver_steady batch id)) fun _ => trivial

theorem dispatchFrom_promptly (batch : Batch) (attempts : Nat) (snapshot : Snapshot) :
    (dispatchFrom batch attempts snapshot).Promptly Steady := by
  have gives : (perform unroutable).Promptly Steady := .perform unroutable_steady
  induction attempts generalizing snapshot with
  | zero => exact gives.bind fun _ => trivial
  | succ attempts ih =>
    refine (tryRoutes_promptly batch snapshot _).bind fun tried => ?_
    cases tried with
    | some result => trivial
    | none =>
      refine (Promptly.get .refl).bind fun zone => ?_
      dsimp only
      split
      · exact gives.bind fun _ => trivial
      · exact ih _

/-- A dispatch never waits, and no moment of it touches the tables, the names of the routes, the
topics, or the life of a producer. -/
theorem dispatch_promptly (batch : Batch) : (dispatch batch).Promptly Steady :=
  (Promptly.get .refl).bind fun _ => dispatchFrom_promptly batch snapshotAttempts _

theorem dispatch_steady (batch : Batch) (zone : Zone) :
    (dispatch batch).Attains passUntil (fun _ after => Steady zone after) zone :=
  (dispatch_promptly batch).attains .refl .trans zone

end ClusterPool.Zone
