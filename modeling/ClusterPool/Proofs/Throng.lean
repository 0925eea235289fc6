import ClusterPool.Proofs.Cycle
import Mathlib.Data.List.Perm.Subperm
import Mathlib.Data.Nat.ModEq

/-! Several cycles over one snapshot at once. The senders share the cursor, so that together they go
round the names in order, however their calls fall between each other. What one of them comes past
is up to the others as well: every name, just if no two of its own tickets are full rounds apart. -/
namespace ClusterPool

namespace Rotation

/-- What one of several senders got, in the order in which it got it. -/
def gotBy (sender : Nat) (got : List (Nat × String)) : List String :=
  (got.filter fun item => item.1 == sender).map (·.2)

/-- Senders go over one snapshot, each for one full cycle of its own or the beginning of one. The
list says whose call comes next, and `got` holds the names picked so far, in the order of their
tickets and with the senders that got them. A sender that has its full cycle takes no more of them. -/
def mingle (rotation : Rotation) (snapshot : Snapshot) (got : List (Nat × String)) :
    List Nat → List (Nat × String) × Rotation
  | [] => (got, rotation)
  | sender :: rest =>
    if (gotBy sender got).length < snapshot.names.length then
      let (name, rotation) := rotation.pick snapshot
      mingle rotation snapshot (got ++ [(sender, name)]) rest
    else mingle rotation snapshot got rest

/-- The ticket so many places after the first one went to this sender. -/
def Took (got : List (Nat × String)) (sender ticket : Nat) : Prop :=
  got[ticket]?.map (·.1) = some sender

instance (got : List (Nat × String)) (sender ticket : Nat) : Decidable (Took got sender ticket) :=
  inferInstanceAs (Decidable (_ = _))

variable (rotation : Rotation) (snapshot : Snapshot) {got : List (Nat × String)}

theorem gotBy_snoc (sender other : Nat) (name : String) :
    gotBy sender (got ++ [(other, name)]) =
      gotBy sender got ++ if other = sender then [name] else [] := by
  by_cases same : other = sender <;> simp [gotBy, same]

/-- All senders together get what one alone would get with as many tickets. -/
theorem mingle_picks (order : List Nat) : ∃ more,
    rotation.mingle snapshot got order =
      (got ++ more, (rotation.picks snapshot more.length).2) ∧
    more.map (·.2) = (rotation.picks snapshot more.length).1 := by
  induction order generalizing rotation got with
  | nil => exact ⟨[], by simp [mingle, picks], rfl⟩
  | cons sender rest ih =>
    unfold mingle
    split
    · obtain ⟨more, mingled, names⟩ :=
        @ih (rotation.pick snapshot).2 (got ++ [(sender, (rotation.pick snapshot).1)])
      refine ⟨(sender, (rotation.pick snapshot).1) :: more, ?_, ?_⟩
      · simpa [picks] using mingled
      · simp [picks, names]
    · exact ih rotation

/-- Every sender gets one name for each of its calls, up to a full cycle. -/
theorem gotBy_mingle (order : List Nat) {sender : Nat}
    (before : (gotBy sender got).length ≤ snapshot.names.length) :
    (gotBy sender (rotation.mingle snapshot got order).1).length =
      min snapshot.names.length ((gotBy sender got).length + order.count sender) := by
  induction order generalizing rotation got with
  | nil => simpa [mingle] using before
  | cons caller rest ih =>
    unfold mingle
    split
    · rename_i more
      have next := @ih (rotation.pick snapshot).2 (got ++ [(caller, (rotation.pick snapshot).1)])
      rw [gotBy_snoc] at next
      by_cases same : caller = sender
      · subst same
        simp at next ⊢
        omega
      · simp [same] at next ⊢
        exact next before
    · rename_i ended
      rw [ih rotation before]
      by_cases same : caller = sender
      · subst same
        simp
        omega
      · simp [same]

/-- The calls of two senders that take turns; the one with more calls ends alone. -/
def callers : Nat → Nat → List Nat
  | 0, 0 => []
  | left + 1, 0 => 0 :: callers left 0
  | 0, right + 1 => 1 :: callers 0 right
  | left + 1, right + 1 => 0 :: 1 :: callers left right

/-- A call of a sender that has no full cycle yet picks the next name. -/
theorem mingle_cons {sender : Nat} (more : (gotBy sender got).length < snapshot.names.length)
    (rest : List Nat) : rotation.mingle snapshot got (sender :: rest) =
      (rotation.pick snapshot).2.mingle snapshot (got ++ [(sender, (rotation.pick snapshot).1)])
        rest := if_pos more

/-- Two cycles that take turns are two senders whose calls do. -/
theorem alternate_mingles (left right : Nat)
    (one : (gotBy 0 got).length + left ≤ snapshot.names.length)
    (two : (gotBy 1 got).length + right ≤ snapshot.names.length) :
    gotBy 0 (rotation.mingle snapshot got (callers left right)).1 =
      gotBy 0 got ++ (rotation.alternate snapshot snapshot left right).1.filterMap (·.1) ∧
    gotBy 1 (rotation.mingle snapshot got (callers left right)).1 =
      gotBy 1 got ++ (rotation.alternate snapshot snapshot left right).1.filterMap (·.2) ∧
    (rotation.mingle snapshot got (callers left right)).2 =
      (rotation.alternate snapshot snapshot left right).2 := by
  fun_induction callers left right generalizing rotation got with
  | case1 => simp [mingle, alternate]
  | case2 left ih =>
    have next := @ih (rotation.pick snapshot).2 (got ++ [(0, (rotation.pick snapshot).1)])
    simp only [gotBy_snoc, List.length_append] at next
    rw [mingle_cons rotation snapshot (by omega), alternate]
    simpa using next (by simp; omega) (by simpa using two)
  | case3 right ih =>
    have next := @ih (rotation.pick snapshot).2 (got ++ [(1, (rotation.pick snapshot).1)])
    simp only [gotBy_snoc, List.length_append] at next
    rw [mingle_cons rotation snapshot (by omega), alternate]
    simpa using next (by simpa using one) (by simp; omega)
  | case4 left right ih =>
    have next := @ih ((rotation.pick snapshot).2.pick snapshot).2
      (got ++ [(0, (rotation.pick snapshot).1)] ++
        [(1, ((rotation.pick snapshot).2.pick snapshot).1)])
    have still : (gotBy 1 (got ++ [(0, (rotation.pick snapshot).1)])).length <
        snapshot.names.length := by
      simp [gotBy_snoc]
      omega
    simp only [gotBy_snoc, List.length_append] at next
    rw [mingle_cons rotation snapshot (by omega), mingle_cons _ snapshot still, alternate]
    simpa using next (by simp; omega) (by simp; omega)

example : (({} : Rotation).alternate ⟨["A", "B"], 0⟩ ⟨["A", "B"], 0⟩ 2 2).1 =
    [(some "A", some "B"), (some "A", some "B")] := by cbv

variable {rotation snapshot}

/-- As many names from a snapshot as it has are all its names just if none of them comes twice. -/
theorem covers_iff_nodup {names yielded : List String} (distinct : names.Nodup)
    (within : ∀ name ∈ yielded, name ∈ names) (full : yielded.length = names.length) :
    (∀ name ∈ names, yielded.count name = 1) ↔ yielded.Nodup := by
  constructor
  · exact fun once => List.nodup_iff_count_eq_one.mpr fun name member =>
      once name (within name member)
  · intro once name member
    have reordered : yielded.Perm names :=
      (List.subperm_of_subset once within).perm_of_length_le full.ge
    rw [reordered.count_eq]
    exact List.count_eq_one_of_mem distinct member

/-- Two tickets lead to the same place just if they are full rounds apart. -/
theorem place_eq_iff {early late : Nat} (before : early < late) (start places : Nat) :
    (start + early) % places = (start + late) % places ↔ places ∣ late - early := by
  have apart : start + late - (start + early) = late - early := by omega
  rw [← apart]
  exact Nat.modEq_iff_dvd' (Nat.add_le_add_left before.le start)

theorem mem_gotBy {sender : Nat} {name : String} :
    name ∈ gotBy sender got ↔ (sender, name) ∈ got := by simp [gotBy]

section
variable {order : List Nat} {after : Rotation}

/-- As long as the cursor does not go on from zero, each name stands at the place to which its
ticket leads. -/
theorem mingled_place (mingled : rotation.mingle snapshot [] order = (got, after))
    (fits : rotation.cursor.toNat + got.length ≤ UInt64.size) {ticket sender : Nat} {name : String}
    (picked : got[ticket]? = some (sender, name)) :
    snapshot.names[(rotation.cursor.toNat + ticket) % snapshot.names.length]? = some name := by
  obtain ⟨more, whole, names⟩ := @mingle_picks rotation snapshot [] order
  obtain rfl : more = got := congrArg Prod.fst (whole.symm.trans mingled)
  have early : ticket < more.length := (List.getElem?_eq_some_iff.mp picked).1
  have serving : 0 < snapshot.names.length := by
    have some := List.length_pos_of_mem (mem_gotBy.mpr (List.mem_of_getElem? picked))
    have each := @gotBy_mingle rotation snapshot [] order sender (Nat.zero_le _)
    rw [mingled] at each
    dsimp only at each
    omega
  have here := congrArg (·[ticket]?) names
  simp only [List.getElem?_map, picked, Option.map_some, picks_eq,
    List.getElem?_range early] at here
  have place : (rotation.cursor.toNat + ticket) % snapshot.names.length < snapshot.names.length :=
    Nat.mod_lt _ serving
  rw [Option.some.injEq, placeAfter_eq,
    Nat.mod_eq_of_lt (by omega : rotation.cursor.toNat + ticket < UInt64.size)] at here
  rw [here, List.getElem?_eq_getElem place, Option.getD_some]

/-- Two of the names are the same just if their tickets are full rounds apart. -/
theorem mingled_name_eq_iff (distinct : snapshot.names.Nodup)
    (mingled : rotation.mingle snapshot [] order = (got, after))
    (fits : rotation.cursor.toNat + got.length ≤ UInt64.size) {early late : Nat}
    (before : early < late) {first second : Nat × String} (one : got[early]? = some first)
    (two : got[late]? = some second) :
    first.2 = second.2 ↔ snapshot.names.length ∣ late - early := by
  have here := mingled_place mingled fits one
  have there := mingled_place mingled fits two
  rw [← place_eq_iff before rotation.cursor.toNat]
  constructor
  · intro same
    rw [same, ← there] at here
    exact (List.getElem?_inj (List.getElem?_eq_some_iff.mp (here.trans there)).1 distinct).mp here
  · intro place
    rw [place] at here
    exact Option.some.inj (here.symm.trans there)

/-- No name comes to a sender twice just if no two of its tickets are full rounds apart. -/
theorem gotBy_nodup_iff (distinct : snapshot.names.Nodup)
    (mingled : rotation.mingle snapshot [] order = (got, after))
    (fits : rotation.cursor.toNat + got.length ≤ UInt64.size) (sender : Nat) :
    (gotBy sender got).Nodup ↔ ∀ early late, early < late → Took got sender early →
      Took got sender late → ¬snapshot.names.length ∣ late - early := by
  rw [gotBy, List.Nodup, List.pairwise_map, List.pairwise_filter, List.pairwise_iff_getElem]
  constructor
  · intro differ early late before took tookAgain rounds
    obtain ⟨first, one, own⟩ := Option.map_eq_some_iff.mp took
    obtain ⟨second, two, ownAgain⟩ := Option.map_eq_some_iff.mp tookAgain
    obtain ⟨inside, rfl⟩ := List.getElem?_eq_some_iff.mp one
    obtain ⟨insideAgain, rfl⟩ := List.getElem?_eq_some_iff.mp two
    exact differ early late inside insideAgain before (beq_iff_eq.mpr own)
      (beq_iff_eq.mpr ownAgain)
      ((mingled_name_eq_iff distinct mingled fits before one two).mpr rounds)
  · intro apart early late inside insideAgain before own ownAgain same
    have one := List.getElem?_eq_getElem inside
    have two := List.getElem?_eq_getElem insideAgain
    refine apart early late before ?_ ?_
      ((mingled_name_eq_iff distinct mingled fits before one two).mp same)
    · exact Option.map_eq_some_iff.mpr ⟨_, one, beq_iff_eq.mp own⟩
    · exact Option.map_eq_some_iff.mpr ⟨_, two, beq_iff_eq.mp ownAgain⟩

end

/-- However the calls of several senders fall between each other, as long as the cursor does not go
on from zero: all tickets together lead round the names of the snapshot in order, and every sender
gets a name for each of its calls, up to a full cycle. A sender that has its full cycle came past
every name once if and only if no two of its own tickets are full rounds apart. -/
theorem mingled_covers_iff (rotation : Rotation) {snapshot : Snapshot}
    (distinct : snapshot.names.Nodup) (order : List Nat) {got : List (Nat × String)}
    {after : Rotation} (mingled : rotation.mingle snapshot [] order = (got, after))
    (fits : rotation.cursor.toNat + got.length ≤ UInt64.size) :
    (∀ ticket sender name, got[ticket]? = some (sender, name) →
      snapshot.names[(rotation.cursor.toNat + ticket) % snapshot.names.length]? = some name) ∧
    after = { rotation with cursor := rotation.cursor + UInt64.ofNat got.length } ∧
    ∀ sender, (gotBy sender got).length = min snapshot.names.length (order.count sender) ∧
      (snapshot.names.length ≤ order.count sender →
        ((∀ name ∈ snapshot.names, (gotBy sender got).count name = 1) ↔
          ∀ early late, early < late → Took got sender early → Took got sender late →
            ¬snapshot.names.length ∣ late - early)) := by
  refine ⟨fun ticket sender name => mingled_place mingled fits, ?_, fun sender => ?_⟩
  · obtain ⟨more, whole, _⟩ := @mingle_picks rotation snapshot [] order
    obtain ⟨rfl, rfl⟩ := Prod.ext_iff.mp (whole.symm.trans mingled)
    rw [List.nil_append, picks_eq]
  · have each := @gotBy_mingle rotation snapshot [] order sender (Nat.zero_le _)
    have nothing : gotBy sender [] = [] := rfl
    rw [mingled, nothing, List.length_nil, Nat.zero_add] at each
    refine ⟨each, fun ended => ?_⟩
    rw [← gotBy_nodup_iff distinct mingled fits]
    refine covers_iff_nodup distinct (fun name member => ?_) ?_
    · obtain ⟨ticket, picked⟩ := List.getElem?_of_mem (mem_gotBy.mp member)
      exact List.mem_of_getElem? (mingled_place mingled fits picked)
    · exact each.trans (Nat.min_eq_left ended)

/-- Over three names a sender comes past all of them although another one takes every other
ticket. -/
theorem mingled_covers_of_turns : ["A", "B", "C"].Nodup ∧
    (({} : Rotation).mingle ⟨["A", "B", "C"], 0⟩ [] [0, 1, 0, 1, 0]).1 =
      [(0, "A"), (1, "B"), (0, "C"), (1, "A"), (0, "B")] ∧
    ∀ name ∈ ["A", "B", "C"],
      (gotBy 0 [(0, "A"), (1, "B"), (0, "C"), (1, "A"), (0, "B")]).count name = 1 := by
  obtain ⟨_, _, each⟩ := @mingled_covers_iff {} ⟨["A", "B", "C"], 0⟩ (by decide) [0, 1, 0, 1, 0]
    [(0, "A"), (1, "B"), (0, "C"), (1, "A"), (0, "B")] { cursor := 5 } (by rfl) (by decide)
  refine ⟨by decide, by rfl, ((each 0).2 (by decide)).mpr ?_⟩
  have few : ∀ late < 5, ∀ early < late,
      Took [(0, "A"), (1, "B"), (0, "C"), (1, "A"), (0, "B")] 0 early →
      Took [(0, "A"), (1, "B"), (0, "C"), (1, "A"), (0, "B")] 0 late → ¬3 ∣ late - early := by
    decide
  intro early late before took tookAgain
  obtain ⟨_, picked, _⟩ := Option.map_eq_some_iff.mp tookAgain
  exact few late (List.getElem?_eq_some_iff.mp picked).1 early before took tookAgain

/-- Two senders whose calls take turns over two names come past one name twice, each of them. -/
theorem turns_miss_names : ¬∀ (rotation : Rotation) (snapshot : Snapshot) (order : List Nat),
    snapshot.names.Nodup →
    rotation.cursor.toNat + (rotation.mingle snapshot [] order).1.length ≤ UInt64.size →
    ∀ sender, snapshot.names.length ≤ order.count sender →
      ∀ name ∈ snapshot.names,
        (gotBy sender (rotation.mingle snapshot [] order).1).count name = 1 := by
  intro all
  have once := all {} ⟨["A", "B"], 0⟩ [0, 1, 0, 1] (by decide) (by decide) 0 (by decide) "B"
    (by decide)
  exact absurd once (by decide)

end Rotation
end ClusterPool
