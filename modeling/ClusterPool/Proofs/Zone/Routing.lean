import ClusterPool.Proofs.Zone.Moments
import ClusterPool.Proofs.Zone.Reloading

/-! Routes lead to active clusters, also in the middle of a reconciliation and whatever else is
under way in the zone. Only whoever is inside the reload gate changes the routes or the active
clusters, and in an order that never leaves a route without its cluster. -/
namespace ClusterPool
open Program

/-- The second snapshot is the first one or was published after it. -/
def Snapshot.Leads (earlier later : Snapshot) : Prop :=
  earlier = later ∨ earlier.edition < later.edition

namespace Snapshot.Leads

theorem refl (snapshot : Snapshot) : snapshot.Leads snapshot := .inl rfl

theorem trans {first second third : Snapshot} (early : first.Leads second)
    (late : second.Leads third) : first.Leads third := by
  rcases early with rfl | early
  · exact late
  · rcases late with rfl | late
    · exact .inr early
    · exact .inr (Nat.lt_trans early late)

theorem edition {earlier later : Snapshot} (leads : earlier.Leads later) :
    earlier.edition ≤ later.edition := by
  rcases leads with rfl | less
  · exact Nat.le_refl _
  · exact Nat.le_of_lt less

end Snapshot.Leads

namespace Zone

/-- Every route leads to an active cluster. -/
def Routed (zone : Zone) : Prop := ∀ name ∈ zone.rotation.names, zone.active.contains name = true

/-- The active clusters, the routes and the reload gate are left alone. -/
structure Aside (before after : Zone) : Prop where
  active : after.active = before.active
  routes : after.rotation.current = before.rotation.current
  gate : after.reloading = before.reloading

/-- No cluster ceases to be active, and the routes and the reload gate are left alone. -/
structure Enlarged (before after : Zone) : Prop where
  active : ∀ name, before.active.contains name = true → after.active.contains name = true
  routes : after.rotation.current = before.rotation.current
  gate : after.reloading = before.reloading

/-- What may be done to the tables inside the reload gate: no route is left without its cluster,
and routes are replaced only by those of the next edition. -/
structure Tended (before after : Zone) : Prop where
  routed : before.Routed → after.Routed
  routes : after.rotation.current = before.rotation.current ∨
    after.rotation.current.edition = before.rotation.current.edition + 1
  gate : after.reloading = before.reloading

namespace Aside

theorem refl (zone : Zone) : Aside zone zone := ⟨rfl, rfl, rfl⟩

theorem trans {first second third : Zone} (early : Aside first second)
    (late : Aside second third) : Aside first third :=
  ⟨late.active.trans early.active, late.routes.trans early.routes, late.gate.trans early.gate⟩

theorem enlarged {before after : Zone} (aside : Aside before after) : Enlarged before after :=
  ⟨fun _ active => aside.active ▸ active, aside.routes, aside.gate⟩

end Aside

namespace Enlarged

theorem refl (zone : Zone) : Enlarged zone zone := ⟨fun _ active => active, rfl, rfl⟩

theorem trans {first second third : Zone} (early : Enlarged first second)
    (late : Enlarged second third) : Enlarged first third :=
  ⟨fun name active => late.active name (early.active name active),
    late.routes.trans early.routes, late.gate.trans early.gate⟩

theorem tended {before after : Zone} (enlarged : Enlarged before after) : Tended before after where
  routed := by
    intro routed name route
    rw [Rotation.names, enlarged.routes] at route
    exact enlarged.active name (routed name route)
  routes := .inl enlarged.routes
  gate := enlarged.gate

end Enlarged

theorem Aside.tended {before after : Zone} (aside : Aside before after) : Tended before after :=
  aside.enlarged.tended

theorem Aside.routed {before after : Zone} (aside : Aside before after) (routed : before.Routed) :
    after.Routed := aside.tended.routed routed

/-! Single changes. -/

private theorem classify_enlarges (now : Stamp) (division : Division) (cluster : Cluster)
    (zone : Zone) : Enlarged zone (classify now division cluster zone).2 := by
  unfold classify
  split
  · exact .refl zone
  · split
    · exact ⟨fun name active => by simp [active], rfl, rfl⟩
    · exact .refl zone

theorem divide_enlarges (now : Stamp) (order : List Cluster) (zone : Zone) :
    Enlarged zone (divide now order zone).2 := by
  unfold divide
  generalize ({} : Division) = division
  induction order generalizing division zone with
  | nil => exact .refl zone
  | cons cluster rest ih =>
    exact (classify_enlarges now division cluster zone).trans (ih _ _)

theorem activate_enlarges (cluster : Cluster) (id : ProducerId) (now : Stamp) (zone : Zone) :
    Enlarged zone (activate cluster id now zone).2 := by
  unfold activate
  split
  · exact .refl zone
  · exact ⟨fun name active => by simp [active], rfl, rfl⟩

/-- Active clusters can become the routes. -/
theorem publishRoutes_tends {routes : List String} {zone : Zone}
    (active : ∀ name ∈ routes, zone.active.contains name = true) :
    Tended zone (publishRoutes routes zone).2 ∧
      (publishRoutes routes zone).2.rotation.names = routes := by
  have names : (publishRoutes routes zone).2.rotation.names = routes :=
    Rotation.publish_names zone.rotation routes
  refine ⟨⟨?_, ?_, rfl⟩, names⟩
  · intro _ name route
    rw [names] at route
    exact active name route
  · change (zone.rotation.publish _).2.current = _ ∨ (zone.rotation.publish _).2.current.edition = _
    unfold Rotation.publish
    split
    · exact .inl rfl
    · exact .inr rfl

/-- Clusters that are no routes can retire without harm to the routes. -/
theorem retireOthers_tends {routes : List String} {zone : Zone}
    (same : zone.rotation.names = routes) (now : Stamp) :
    Tended zone (retireOthers routes now zone).2 where
  routed := by
    intro routed name route
    have isRoute : name ∈ routes := same ▸ route
    have active := routed name route
    rw [NameTable.contains] at active ⊢
    rw [retireOthers, NameTable.find?_filter_names]
    simpa [isRoute] using active
  routes := .inl rfl
  gate := rfl

private theorem finishStart_aside (id : ProducerId) (zone : Zone) :
    Aside zone (finishStart id zone).2 := by
  unfold finishStart withFleet
  dsimp only
  split <;> exact ⟨rfl, rfl, rfl⟩

private theorem publishFirst_aside (topics : NameSet) (cluster : Cluster) (id : ProducerId)
    (zone : Zone) : Aside zone (publishFirst topics cluster id zone) := by
  obtain ⟨_, _, _, _, rest⟩ := (publishFirst_fleet topics cluster id zone).1
  rw [rest]
  exact ⟨rfl, rfl, rfl⟩

private theorem absorbTopics_aside (current : NameSet) (zone : Zone) :
    Aside zone (absorbTopics current zone).2 := by
  obtain ⟨_, _, _, _, rest⟩ := absorbTopics_rest current zone
  rw [rest]
  exact ⟨rfl, rfl, rfl⟩

private theorem conclude_aside (summary : Summary) (zone : Zone) :
    Aside zone (conclude summary zone) := by
  obtain ⟨_, _, rest⟩ := conclude_rest summary zone
  rw [rest]
  exact ⟨rfl, rfl, rfl⟩

/-! Work that stays within such changes. -/

private theorem tends_of_aside {work : Program Zone α} (within : work.Within Aside) :
    work.Within Tended := within.mono fun _ _ => Aside.tended

private theorem aside_tolerant : Tolerant Aside :=
  ⟨fun _ _ _ => ⟨rfl, rfl, rfl⟩, fun _ _ => ⟨rfl, rfl, rfl⟩⟩

private theorem tended_tolerant : Tolerant Tended :=
  ⟨fun zone _ _ => (aside_tolerant.notes zone _ _).tended,
    fun zone _ => (aside_tolerant.book zone _).tended⟩

private theorem stopProducer_aside (cluster : String) (id : ProducerId) (role : Role) :
    (stopProducer cluster id role).Within Aside :=
  aside_tolerant.stopProducer (fun _ => ⟨rfl, rfl, rfl⟩) cluster role

private theorem createProducer_aside (topics : NameSet) (cluster : Cluster) :
    (createProducer topics cluster).Within Aside := by
  refine createProducer_within (fun _ => ⟨rfl, rfl, rfl⟩) (fun id => ?_) fun id zone => ?_
  · exact aside_tolerant.startProducer (fun _ => ⟨rfl, rfl, rfl⟩) (finishStart_aside id)
  · exact (publishFirst_aside topics cluster id zone).trans ⟨rfl, rfl, rfl⟩

private theorem createAll_tends (topics : NameSet) (missing : List Cluster) (creation : Creation) :
    (createAll topics creation missing).Within Tended :=
  tended_tolerant.createAll (fun _ => tends_of_aside (createProducer_aside _ _))
    (fun cluster id now zone => (activate_enlarges cluster id now zone).tended)
    (fun _ _ => tends_of_aside (stopProducer_aside _ _ _)) creation missing

private theorem reconcileTopics_aside : reconcileTopics.Within Aside :=
  aside_tolerant.reconcileTopics absorbTopics_aside

/-- Reclaiming leaves the active clusters and the routes alone, at each of its moments. -/
private theorem reclaim_aside : reclaim.Within Aside :=
  aside_tolerant.reclaim (fun _ _ => ⟨rfl, rfl, rfl⟩) fun _ _ => stopProducer_aside _ _ _

/-! What the parties at work in a zone may do to each other. -/

/-- Time and everything that is not the pool's own: the catalog, the clock and the producers may
change at any moment. -/
def surroundings : Surroundings Zone where
  now := Zone.now
  changes before after := ∃ catalog clock fleet, after = { before with catalog, clock, fleet }

/-- The tickets of the reload gate that parties hold were issued, none of them twice. -/
structure Ticketed (zone : Zone) (tickets : List (Option Nat)) : Prop where
  issued : ∀ {place ticket : Nat}, tickets[place]? = some (some ticket) →
    ticket < zone.reloading.issued
  once : ∀ {place other ticket : Nat}, tickets[place]? = some (some ticket) →
    tickets[other]? = some (some ticket) → place = other

/-- The party is inside the reload gate: its ticket is the one that is served. -/
def Inside (ticket : Option Nat) (zone : Zone) : Prop := ticket = some zone.reloading.served

/-- What a party may do, with the ticket that it holds before and after. -/
inductive Move (before after : Zone) : Option Nat → Option Nat → Prop
  | aside {ticket : Option Nat} (aside : Aside before after) : Move before after ticket ticket
  | enter (active : after.active = before.active)
      (routes : after.rotation.current = before.rotation.current)
      (gate : after.reloading = before.reloading.enter) :
      Move before after none (some before.reloading.issued)
  | tend (tended : Tended before after) :
      Move before after (some before.reloading.served) (some before.reloading.served)
  | leave (active : after.active = before.active)
      (routes : after.rotation.current = before.rotation.current)
      (gate : after.reloading = before.reloading.leave) :
      Move before after (some before.reloading.served) none

/-- What becomes of a zone in the eyes of a party: the routes may be replaced by those of later
editions, but nothing happens to the tables while the party itself is inside the reload gate. -/
structure Onward (ticket : Option Nat) (before after : Zone) : Prop where
  leads : before.rotation.current.Leads after.rotation.current
  inside : Inside ticket before → after.reloading.served = before.reloading.served ∧
    after.active = before.active ∧ after.rotation.current = before.rotation.current

theorem Aside.onward {ticket : Option Nat} {before after : Zone} (aside : Aside before after) :
    Onward ticket before after :=
  ⟨.inl aside.routes.symm, fun _ => ⟨congrArg Turnstile.served aside.gate, aside.active,
    aside.routes⟩⟩

theorem Onward.trans {ticket : Option Nat} {first second third : Zone}
    (early : Onward ticket first second) (late : Onward ticket second third) :
    Onward ticket first third := by
  refine ⟨early.leads.trans late.leads, fun inside => ?_⟩
  obtain ⟨served, active, routes⟩ := early.inside inside
  obtain ⟨served', active', routes'⟩ := late.inside (inside.trans (congrArg some served.symm))
  exact ⟨served'.trans served, active'.trans active, routes'.trans routes⟩

namespace Move

variable {before after : Zone} {ticket granted : Option Nat}

theorem routed (move : Move before after ticket granted) (routed : before.Routed) :
    after.Routed := by
  have kept : after.active = before.active → after.rotation.current = before.rotation.current →
      after.Routed := fun active routes name route => by
    rw [Rotation.names, routes] at route
    exact active ▸ routed name route
  cases move with
  | aside aside => exact aside.routed routed
  | enter active routes _ => exact kept active routes
  | tend tended => exact tended.routed routed
  | leave active routes _ => exact kept active routes

/-- A move replaces the routes at most once. -/
theorem routes (move : Move before after ticket granted) :
    after.rotation.current = before.rotation.current ∨
      after.rotation.current.edition = before.rotation.current.edition + 1 := by
  cases move with
  | aside aside => exact .inl aside.routes
  | enter _ routes _ => exact .inl routes
  | tend tended => exact tended.routes
  | leave _ routes _ => exact .inl routes

theorem leads (move : Move before after ticket granted) :
    before.rotation.current.Leads after.rotation.current := by
  rcases move.routes with same | next
  · exact .inl same.symm
  · exact .inr (by omega)

/-- A ticket that a party holds after a move is the one that it held before, or a new one. -/
private theorem grants (move : Move before after ticket granted) {number : Nat}
    (holds : granted = some number) : ticket = some number ∨ (number = before.reloading.issued ∧
      after.reloading.issued = before.reloading.issued + 1) := by
  cases move with
  | aside => exact .inl holds
  | enter _ _ gate => exact .inr ⟨(Option.some.inj holds).symm, by rw [gate]; rfl⟩
  | tend => exact .inl holds
  | leave => cases holds

private theorem issued_mono (move : Move before after ticket granted) :
    before.reloading.issued ≤ after.reloading.issued := by
  cases move with
  | aside aside => exact Nat.le_of_eq (congrArg Turnstile.issued aside.gate).symm
  | enter _ _ gate => exact Nat.le_trans (Nat.le_succ _) (Nat.le_of_eq (gate ▸ rfl))
  | tend tended => exact Nat.le_of_eq (congrArg Turnstile.issued tended.gate).symm
  | leave _ _ gate => exact Nat.le_of_eq (congrArg Turnstile.issued gate).symm

/-- The tickets are still in order after a move of the party that stands at this place. -/
theorem ticketed {tickets : List (Option Nat)} {place : Nat}
    (holds : tickets[place]? = some ticket) (move : Move before after ticket granted)
    (ticketed : before.Ticketed tickets) : after.Ticketed (tickets.set place granted) := by
  have held : ∀ {other number : Nat}, (tickets.set place granted)[other]? = some (some number) →
      (other = place ∧ granted = some number) ∨
        (other ≠ place ∧ tickets[other]? = some (some number)) := by
    intro other number found
    rw [List.getElem?_set] at found
    split at found
    · rename_i same
      split at found
      · exact .inl ⟨same.symm, Option.some.inj found⟩
      · cases found
    · rename_i differs
      exact .inr ⟨Ne.symm differs, found⟩
  -- A ticket that the moving party now holds is held by no other party.
  have apart : ∀ {other number : Nat}, granted = some number → other ≠ place →
      tickets[other]? ≠ some (some number) := by
    intro other number grants differs found
    rcases move.grants grants with rfl | ⟨rfl, _⟩
    · exact differs (ticketed.once found holds)
    · exact Nat.lt_irrefl _ (ticketed.issued found)
  constructor
  case issued =>
    intro other number found
    rcases held found with ⟨_, grants⟩ | ⟨_, found⟩
    · rcases move.grants grants with rfl | ⟨rfl, next⟩
      · exact Nat.lt_of_lt_of_le (ticketed.issued holds) move.issued_mono
      · omega
    · exact Nat.lt_of_lt_of_le (ticketed.issued found) move.issued_mono
  case once =>
    intro first second number firstFound secondFound
    rcases held firstFound with ⟨rfl, grants⟩ | ⟨firstApart, firstHeld⟩
    · rcases held secondFound with ⟨rfl, _⟩ | ⟨secondApart, secondHeld⟩
      · rfl
      · exact absurd secondHeld (apart grants secondApart)
    · rcases held secondFound with ⟨rfl, grants⟩ | ⟨_, secondHeld⟩
      · exact absurd firstHeld (apart grants firstApart)
      · exact ticketed.once firstHeld secondHeld

/-- Every other party can rely on a move. -/
theorem onward {tickets : List (Option Nat)} {place other : Nat} {held : Option Nat}
    (holds : tickets[place]? = some ticket) (move : Move before after ticket granted)
    (ticketed : before.Ticketed tickets) (apart : other ≠ place)
    (otherHolds : tickets[other]? = some held) : Onward held before after := by
  refine ⟨move.leads, fun inside => ?_⟩
  -- Whoever is inside is not the party that moves, which then cannot be inside as well.
  have outside : ticket ≠ some before.reloading.served := by
    rintro rfl
    exact apart (ticketed.once (inside ▸ otherHolds) holds)
  cases move with
  | aside aside => exact ⟨aside.gate ▸ rfl, aside.active, aside.routes⟩
  | enter active routes gate => exact ⟨by rw [gate]; rfl, active, routes⟩
  | tend => exact absurd rfl outside
  | leave => exact absurd rfl outside

end Move

/-- How routing is shared: routes and active clusters change inside the reload gate only. -/
def routing : Discipline surroundings (Option Nat) where
  lawful := Routed
  assigned := Ticketed
  fresh := none
  move ticket before granted after := Move before after ticket granted
  rely := Onward
  rely_refl _ zone := (Aside.refl zone).onward
  rely_trans := Onward.trans
  stay _ zone := .aside (.refl zone)
  joins := by
    rintro zone tickets ticketed
    have old : ∀ {place ticket : Nat}, (tickets ++ [none])[place]? = some (some ticket) →
        tickets[place]? = some (some ticket) := by
      intro place ticket found
      rw [List.getElem?_append] at found
      split at found
      · exact found
      · rw [List.getElem?_singleton] at found
        split at found <;> cases found
    exact ⟨fun found => ticketed.issued (old found),
      fun first second => ticketed.once (old first) (old second)⟩
  lawful_move move routed := move.routed routed
  assigned_move holds move ticketed := move.ticketed holds ticketed
  rely_move holds move ticketed _ _ apart otherHolds := move.onward holds ticketed apart otherHolds
  lawful_outside := by
    rintro before _ ⟨_, _, _, rfl⟩ routed
    exact routed
  assigned_outside := by
    rintro before _ tickets ⟨_, _, _, rfl⟩ ticketed
    exact ⟨ticketed.issued, ticketed.once⟩
  rely_outside := by
    rintro before _ ⟨_, _, _, rfl⟩ ticket
    exact Aside.onward ⟨rfl, rfl, rfl⟩

/-! What reconciliations keep to, inside the reload gate. -/

theorem Inside.onward {ticket : Option Nat} {before after : Zone} (inside : Inside ticket before)
    (onward : Onward ticket before after) : Inside ticket after :=
  inside.trans (congrArg some (onward.inside inside).1.symm)

theorem Inside.tend {ticket : Option Nat} {before after : Zone} (inside : Inside ticket before)
    (tended : Tended before after) : routing.move ticket before ticket after := by
  obtain rfl := inside
  exact .tend tended

/-- The work can be done inside the reload gate, and is still inside when it is done or given up. -/
def Fits (work : Program Zone α) : Prop :=
  ∀ ticket zone, Inside ticket zone → work.Keeps routing (fun _ => Inside) Inside ticket zone

/-- The work can be done by whoever comes without a ticket, and takes none away when it is done or
given up. -/
def Visits (work : Program Zone α) : Prop :=
  ∀ zone, work.Keeps routing (fun _ ticket _ => ticket = none) (fun ticket _ => ticket = none)
    none zone

theorem fits_done (value : α) : Fits (done value : Program Zone α) :=
  fun _ _ inside _ onward => inside.onward onward

theorem Fits.bind {work : Program Zone α} {next : α → Program Zone β} (first : Fits work)
    (second : ∀ value, Fits (next value)) : Fits (work.bind next) := fun ticket zone inside =>
  Keeps.bind ((first ticket zone inside).mono second fun _ _ inside => inside)

theorem fits_of_tends {work : Program Zone α} (within : work.Within Tended) : Fits work := by
  intro ticket zone inside
  have tends : ∀ before after, Tended before after → Inside ticket before →
      routing.move ticket before ticket after ∧ Inside ticket after := by
    intro before after tended inside
    refine ⟨inside.tend tended, ?_⟩
    rw [Inside, tended.gate]
    exact inside
  have stays : ∀ before after, Onward ticket before after → Inside ticket before →
      Inside ticket after := fun before after onward inside => inside.onward onward
  refine (within.keeps tends stays inside).mono ?_ ?_
  · rintro value _ after ⟨rfl, inside⟩
    exact inside
  · rintro _ after ⟨rfl, inside⟩
    exact inside

theorem fits_of_aside {work : Program Zone α} (within : work.Within Aside) : Fits work :=
  fits_of_tends (tends_of_aside within)

/-- Work that leaves everything alone that routing is about can be done by anyone. -/
theorem visits_of_aside {work : Program Zone α} (within : work.Within Aside) : Visits work := by
  intro zone
  have moves : ∀ before after, Aside before after → True →
      routing.move none before none after ∧ True := fun _ _ aside _ => ⟨.aside aside, trivial⟩
  refine (within.keeps moves (fun _ _ _ _ => trivial) trivial).mono ?_ ?_
  · exact fun _ _ _ known => known.1
  · exact fun _ _ known => known.1

/-- The gate of the tables is left inside the reload gate, at the end of whatever was done. -/
private theorem leaveBook_fits {work : Program Zone α} (ends : Fits work) :
    Fits (act bookGate.leave fun _ => work) := by
  intro ticket zone inside again onward _
  have inside := inside.onward onward
  exact ⟨ticket, .aside ⟨rfl, rfl, rfl⟩, ends _ _ inside⟩

private theorem fits_crash : Fits (crash : Program Zone α) :=
  fun _ _ inside _ onward => inside.onward onward

/-- The retirement of what is no route, while the routes are known. -/
private theorem retire_keeps {routes : List String} {ticket : Option Nat} {zone : Zone}
    (inside : Inside ticket zone) (same : zone.rotation.names = routes) :
    (bookGate.inside do
      let now ← readClock
      .perform (retireOthers routes now)).Keeps routing (fun _ => Inside) Inside ticket zone := by
  have aside : ∀ before after, Aside before after →
      Inside ticket before ∧ before.rotation.names = routes →
        routing.move ticket before ticket after ∧
          Inside ticket after ∧ after.rotation.names = routes := by
    rintro before after aside ⟨inside, same⟩
    refine ⟨.aside aside, ?_, ?_⟩
    · rw [Inside, aside.gate]
      exact inside
    · rw [Rotation.names, aside.routes]
      exact same
  have stays : ∀ before after, Onward ticket before after →
      Inside ticket before ∧ before.rotation.names = routes →
        Inside ticket after ∧ after.rotation.names = routes := by
    rintro before after onward ⟨inside, same⟩
    refine ⟨inside.onward onward, ?_⟩
    rw [Rotation.names, (onward.inside inside).2.2]
    exact same
  have entering : bookGate.enter.Within Aside :=
    fun _ => ⟨⟨rfl, rfl, rfl⟩, within_waitFor .refl _⟩
  refine Keeps.bind ((entering.keeps aside stays ⟨inside, same⟩).mono ?_ ?_)
  · rintro _ _ entered ⟨rfl, known⟩
    refine Keeps.ending (Keeps.bind ((aside_tolerant.readClock.keeps aside stays known).mono ?_ ?_))
    · rintro now _ read ⟨rfl, known⟩ later onward _
      obtain ⟨inside, same⟩ := stays _ _ onward known
      have tended := retireOthers_tends same now
      refine ⟨_, inside.tend tended, fun again onward => ?_⟩
      have inside : Inside _ again := Inside.onward (by exact inside) onward
      exact leaveBook_fits (fits_done _) _ _ inside
    · rintro _ crashed ⟨rfl, inside, _⟩
      exact leaveBook_fits fits_crash _ _ inside
  · rintro _ after ⟨rfl, inside, _⟩
    exact inside

private theorem sort_tends (order : List Cluster) :
    (bookGate.inside do
      let now ← readClock
      .perform (divide now order)).Within Tended := by
  refine tended_tolerant.inside (tended_tolerant.readClock.bind fun now => ?_)
  exact within_perform.mpr fun zone => (divide_enlarges now order zone).tended

/-- Bringing the clusters in line: new ones become active before they are routes, and old ones
cease to be routes before they retire. -/
theorem adopt_fits (order : List Cluster) : Fits (adopt order) := by
  refine (fits_of_tends (sort_tends order)).bind fun division => ?_
  refine (fits_of_aside aside_tolerant.look).bind fun seen => ?_
  refine (fits_of_tends (createAll_tends _ _ _)).bind fun creation => ?_
  intro ticket zone inside
  refine Keeps.bind fun seen onward _ => ⟨ticket, .aside (.refl seen), fun later again => ?_⟩
  have inside := inside.onward onward
  refine Keeps.bind fun before further _ => ?_
  -- Nobody but the party inside the gate changes the active clusters, so that those that were
  -- chosen are still active when they become the routes.
  have unchanged := ((again.trans further).inside inside).2.1
  have active : ∀ name ∈ activeAmong order seen, before.active.contains name = true :=
    fun name member => unchanged ▸ (List.mem_filter.mp member).2
  obtain ⟨tended, same⟩ := publishRoutes_tends active
  have inside := inside.onward (again.trans further)
  refine ⟨ticket, inside.tend tended, fun after onward => ?_⟩
  have published : Inside ticket (publishRoutes (activeAmong order seen) before).2 := by
    rw [Inside, tended.gate]
    exact inside
  have routes : after.rotation.names = activeAmong order seen := by
    rw [Rotation.names, (onward.inside published).2.2]
    exact same
  refine Keeps.bind ((retire_keeps (published.onward onward) routes).mono ?_
    fun _ _ inside => inside)
  have concludes : ∀ summary, Fits ((modify (conclude summary)).bind fun _ => done summary) :=
    fun summary => (fits_of_aside (within_modify.mpr (conclude_aside summary))).bind fun _ =>
      fits_done summary
  exact fun removed => (fits_of_aside aside_tolerant.look).bind fun seen => concludes _

private theorem reconcileClusters_fits : Fits reconcileClusters := by
  refine (fits_of_aside (aside_tolerant.fetch _)).bind fun fetched => ?_
  cases fetched with
  | error fault => exact fits_done _
  | ok clusters =>
    refine (fits_of_aside aside_tolerant.look).bind fun seen => ?_
    dsimp only
    split
    · exact (fits_of_aside (aside_tolerant.report _)).bind fun _ => fits_done _
    · exact (adopt_fits _).bind fun _ => fits_done _

/-- Work inside the reload gate is done with a ticket of its own, which is given back at the end. -/
theorem visits_insideReload {work : Program Zone α} (fits : Fits work) :
    Visits (reloadGate.inside work) := by
  have leaves : ∀ {rest : Program Zone α} {ticket : Option Nat} {zone : Zone},
      Inside ticket zone → Visits rest →
        (act reloadGate.leave fun _ => rest).Keeps routing (fun _ ticket _ => ticket = none)
          (fun ticket _ => ticket = none) ticket zone := by
    intro rest ticket zone inside ends later onward _
    obtain rfl := inside.onward onward
    exact ⟨none, .leave rfl rfl rfl, ends _⟩
  intro zone
  refine Keeps.bind fun before _ _ => ⟨_, .enter rfl rfl rfl, Keeps.waitFor ?_⟩
  intro again _ ready later onward
  have inside : Inside (some before.reloading.issued) again :=
    congrArg some (beq_iff_eq.mp ready).symm
  refine Keeps.ending ((fits _ _ (inside.onward onward)).mono ?_ ?_)
  · intro value ticket after inside
    exact leaves inside fun _ _ _ => rfl
  · intro ticket after inside
    exact leaves inside fun _ _ _ => rfl

theorem reconcileClustersAlone_visits : Visits reconcileClustersAlone :=
  visits_insideReload reconcileClusters_fits

theorem reconcileTopicsAlone_visits : Visits reconcileTopicsAlone :=
  visits_insideReload (fits_of_aside reconcileTopics_aside)

theorem reclaim_visits : Visits reclaim := visits_of_aside reclaim_aside

theorem reload_visits : Visits reload :=
  visits_insideReload (reconcileClusters_fits.bind fun outcome =>
    fits_of_aside (aside_tolerant.afterClusters reconcileTopics_aside outcome))

end Zone
end ClusterPool
