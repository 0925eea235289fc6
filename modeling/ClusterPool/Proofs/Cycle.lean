import Mathlib.Data.Int.CardIntervalMod
import ClusterPool.Rotation
import Mathlib.Data.List.Rotate

/-! Going round the places of a snapshot, one ticket after the other. A stretch of numbers comes past
each place equally often, give or take one. One cycle takes tickets that follow each other and go on
from zero after the greatest one, while nobody else takes any. As long as that breaks no round, the
names come in their order, from the place of the first ticket on. Where a round is broken, some name
comes twice. -/
namespace ClusterPool

/-- How many of `turns` numbers, from `start` on, come past a place of so many. -/
def visits (start turns places place : Nat) : Nat :=
  (List.range' start turns).countP fun number => number % places = place

namespace Rotation

variable (rotation : Rotation) (snapshot : Snapshot)

/-- The place to which a later one of the next tickets leads. -/
def placeAfter (places step : Nat) : Nat :=
  (rotation.cursor + UInt64.ofNat step).toNat % places

theorem placeAfter_eq (places step : Nat) : rotation.placeAfter places step =
    (rotation.cursor.toNat + step) % UInt64.size % places := by
  rw [placeAfter, UInt64.toNat_add, UInt64.toNat_ofNat']
  change (rotation.cursor.toNat + step % UInt64.size) % UInt64.size % places = _
  rw [Nat.add_mod_mod]

/-- The names come from the places of one ticket after the other. -/
theorem picks_eq (count : Nat) : rotation.picks snapshot count =
    ((List.range count).map fun step =>
        snapshot.names[rotation.placeAfter snapshot.names.length step]?.getD "",
      { rotation with cursor := rotation.cursor + UInt64.ofNat count }) := by
  induction count generalizing rotation with
  | zero => simp [picks]
  | succ count ih =>
    have next : ∀ step, rotation.cursor + 1 + UInt64.ofNat step =
        rotation.cursor + UInt64.ofNat (step + 1) := fun step => by
      rw [UInt64.ofNat_add, UInt64.add_comm (UInt64.ofNat step), UInt64.add_assoc]
      rfl
    simp [picks, pick, ticket, ih, List.range_succ_eq_map, placeAfter, next]

/-- A cycle has as many names as the snapshot, and takes as many tickets. -/
theorem cycle_eq : rotation.cycle snapshot none =
    ((List.range snapshot.names.length).map fun step =>
        snapshot.names[rotation.placeAfter snapshot.names.length step]?.getD "",
      { rotation with cursor := rotation.cursor + UInt64.ofNat snapshot.names.length }) :=
  rotation.picks_eq snapshot _

/-- No ticket breaks a round: the tickets of a cycle do not reach the greatest one, or the numbers
of all tickets make up full rounds. -/
def Unbroken (rotation : Rotation) (places : Nat) : Prop :=
  rotation.cursor.toNat + places ≤ UInt64.size ∨ places ∣ UInt64.size

variable {rotation snapshot}

/-- In an unbroken round each place follows the one before. -/
theorem Unbroken.placeAfter_eq {places step : Nat} (unbroken : rotation.Unbroken places)
    (inside : step < places) :
    rotation.placeAfter places step = (rotation.cursor.toNat + step) % places := by
  rw [Rotation.placeAfter_eq]
  rcases unbroken with short | full
  · rw [Nat.mod_eq_of_lt (a := rotation.cursor.toNat + step) (by omega)]
  · exact Nat.mod_mod_of_dvd _ full

/-- An unbroken cycle comes past all names in their order. -/
theorem Unbroken.cycle_eq_rotate (unbroken : rotation.Unbroken snapshot.names.length) :
    (rotation.cycle snapshot none).1 = snapshot.names.rotate rotation.cursor.toNat := by
  rw [cycle_eq]
  refine List.ext_getElem (by simp) fun step _ inside => ?_
  rw [List.length_rotate] at inside
  have place : (rotation.cursor.toNat + step) % snapshot.names.length < snapshot.names.length :=
    Nat.mod_lt _ (Nat.zero_lt_of_lt inside)
  simp [unbroken.placeAfter_eq inside, List.getElem_rotate, place, Nat.add_comm step]

/-- In a broken round two tickets lead to the same place: as the numbers of all tickets leave a rest
beyond full rounds, the places after the greatest ticket do not follow those before it. -/
theorem placeAfter_twice {places : Nat} (broken : ¬rotation.Unbroken places) :
    ∃ early late, early < late ∧ late < places ∧
      rotation.placeAfter places early = rotation.placeAfter places late := by
  obtain ⟨long, rests⟩ := not_or.mp broken
  have below : rotation.cursor.toNat < UInt64.size := rotation.cursor.toNat_lt
  obtain ⟨left, size⟩ : ∃ left, UInt64.size = rotation.cursor.toNat + left :=
    ⟨UInt64.size - rotation.cursor.toNat, by omega⟩
  obtain ⟨rest, same⟩ : ∃ rest, UInt64.size % places = rest := ⟨_, rfl⟩
  have full := Nat.div_add_mod UInt64.size places
  have some : rest ≠ 0 := fun none => rests (Nat.dvd_of_mod_eq_zero (same.trans none))
  have less : rest < places := same ▸ Nat.mod_lt _ (by omega)
  have within : rest ≤ UInt64.size := same ▸ Nat.mod_le _ _
  rw [same] at full
  by_cases early : left ≤ rest
  · -- The first ticket of the cycle is followed by one at the same place after the greatest.
    refine ⟨0, rest, by omega, less, ?_⟩
    have first : rotation.cursor.toNat + 0 = rest - left + places * (UInt64.size / places) := by
      omega
    have second : rotation.cursor.toNat + rest = rest - left + UInt64.size := by omega
    rw [placeAfter_eq, placeAfter_eq, Nat.mod_eq_of_lt (a := rotation.cursor.toNat + 0) below,
      first, second, Nat.add_mul_mod_self_left, Nat.add_mod_right,
      Nat.mod_eq_of_lt (a := rest - left) (by omega : rest - left < UInt64.size)]
  · -- The last full round ends before the greatest ticket, so that its place comes again at zero.
    refine ⟨left - rest, left, by omega, by omega, ?_⟩
    have first : rotation.cursor.toNat + (left - rest) = places * (UInt64.size / places) := by
      omega
    rw [placeAfter_eq, placeAfter_eq, ← size, Nat.mod_self,
      Nat.mod_eq_of_lt (by omega : rotation.cursor.toNat + (left - rest) < UInt64.size), first,
      Nat.mul_mod_right, Nat.zero_mod]

/-- Whatever a cycle yields is a name of its snapshot. -/
theorem mem_cycle {name : String} (member : name ∈ (rotation.cycle snapshot none).1) :
    name ∈ snapshot.names := by
  rw [cycle_eq] at member
  obtain ⟨step, inside, rfl⟩ := List.mem_map.mp member
  have place : rotation.placeAfter snapshot.names.length step < snapshot.names.length :=
    Nat.mod_lt _ (Nat.zero_lt_of_lt (List.mem_range.mp inside))
  rw [List.getElem?_eq_getElem place]
  exact List.getElem_mem place

/-- In a broken cycle some name comes twice. -/
theorem cycle_repeats (broken : ¬rotation.Unbroken snapshot.names.length) :
    ¬(rotation.cycle snapshot none).1.Nodup := by
  obtain ⟨early, late, before, inside, same⟩ := placeAfter_twice broken
  rw [cycle_eq]
  intro once
  have positions := @List.Nodup.getElem_inj_iff _ _ once early (by simp; omega) late
    (by simpa using inside)
  simp [same] at positions
  omega

/-- A cycle that nobody comes in between has as many names as its snapshot, all of them from it, and
leaves the cursor so many tickets further, counted from zero again after the greatest one. It comes
past every name once if and only if the tickets do not go on from zero within the cycle, or all
tickets together make up full rounds; and the names then come in the order of the snapshot, from the
place of the first ticket on. -/
theorem cycle_covers (rotation : Rotation) {snapshot : Snapshot}
    (distinct : snapshot.names.Nodup) :
    (rotation.cycle snapshot none).1.length = snapshot.names.length ∧
    (∀ name ∈ (rotation.cycle snapshot none).1, name ∈ snapshot.names) ∧
    (rotation.cycle snapshot none).2.current = rotation.current ∧
    (rotation.cycle snapshot none).2.cursor.toNat =
      (rotation.cursor.toNat + snapshot.names.length) % UInt64.size ∧
    ((∀ name ∈ snapshot.names, (rotation.cycle snapshot none).1.count name = 1) ↔
      rotation.cursor.toNat + snapshot.names.length ≤ UInt64.size ∨
        snapshot.names.length ∣ UInt64.size) ∧
    (rotation.cursor.toNat + snapshot.names.length ≤ UInt64.size ∨
        snapshot.names.length ∣ UInt64.size →
      (rotation.cycle snapshot none).1 =
        snapshot.names.drop (rotation.cursor.toNat % snapshot.names.length) ++
          snapshot.names.take (rotation.cursor.toNat % snapshot.names.length)) := by
  refine ⟨by simp [cycle_eq], fun name => mem_cycle, by simp [cycle_eq], ?_, ⟨?_, ?_⟩, ?_⟩
  · rw [cycle_eq, UInt64.toNat_add, UInt64.toNat_ofNat']
    exact Nat.add_mod_mod ..
  · intro once
    refine Classical.not_not.mp fun broken => cycle_repeats broken ?_
    exact List.nodup_iff_count_eq_one.mpr fun name member => once name (mem_cycle member)
  · intro unbroken name member
    rw [Unbroken.cycle_eq_rotate unbroken, (List.rotate_perm _ _).count_eq]
    exact List.count_eq_one_of_mem distinct member
  · intro unbroken
    rw [Unbroken.cycle_eq_rotate unbroken, List.rotate_eq_drop_append_take_mod]

/-- From the greatest ticket on, three names do not all come: the ticket after it leads to the same
place once more. Two names do. -/
theorem cycle_covers_of_greatest : ["A", "B", "C"].Nodup ∧
    ¬(∀ name ∈ ["A", "B", "C"],
      (({ cursor := -1 } : Rotation).cycle ⟨["A", "B", "C"], 0⟩ none).1.count name = 1) ∧
    (({ cursor := -1 } : Rotation).cycle ⟨["A", "B"], 0⟩ none).1 = ["B", "A"] := by
  refine ⟨by decide, ?_, ?_⟩
  · obtain ⟨_, _, _, _, once, _⟩ :=
      @cycle_covers { cursor := -1 } ⟨["A", "B", "C"], 0⟩ (by decide)
    exact fun each => absurd (once.mp each) (by decide)
  · obtain ⟨_, _, _, _, _, turned⟩ :=
      @cycle_covers { cursor := -1 } ⟨["A", "B"], 0⟩ (by decide)
    exact turned (.inr (by decide))

end Rotation
end ClusterPool
