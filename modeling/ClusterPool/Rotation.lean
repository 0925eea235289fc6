/-! The order in which a pool goes round its clusters. The names are replaced as a whole; the
cursor that walks over them is shared by all senders and never set back. -/
namespace ClusterPool

/-- The names of one moment. Two snapshots of the same edition have the same names, and every
replacement begins a new edition. -/
structure Snapshot where
  names : List String
  edition : Nat
  deriving DecidableEq, Inhabited

structure Rotation where
  current : Snapshot := ⟨[], 0⟩
  cursor : UInt64 := 0
  deriving DecidableEq, Inhabited

namespace Rotation

def names (rotation : Rotation) : List String := rotation.current.names

/-- Begins a new edition with these names. -/
def replace (rotation : Rotation) (names : List String) : Rotation :=
  { rotation with current := ⟨names, rotation.current.edition + 1⟩ }

/-- Replaces the names if they differ, and says whether they did. -/
def publish (rotation : Rotation) (names : List String) : Bool × Rotation :=
  if rotation.names = names then (false, rotation) else (true, rotation.replace names)

def clear (rotation : Rotation) : Rotation := rotation.replace []

/-- Takes the next ticket and folds it into so many places. The ticket after the greatest one
is zero. -/
def ticket (rotation : Rotation) (places : Nat) : Nat × Rotation :=
  (rotation.cursor.toNat % places, { rotation with cursor := rotation.cursor + 1 })

/-- The name that the next ticket picks from a snapshot. -/
def pick (rotation : Rotation) (snapshot : Snapshot) : String × Rotation :=
  let (place, rotation) := rotation.ticket snapshot.names.length
  (snapshot.names[place]?.getD "", rotation)

/-- The next names that tickets pick from a snapshot. -/
def picks (rotation : Rotation) (snapshot : Snapshot) : Nat → List String × Rotation
  | 0 => ([], rotation)
  | count + 1 =>
    let (name, rotation) := rotation.pick snapshot
    let (names, rotation) := rotation.picks snapshot count
    (name :: names, rotation)

/-- One full cycle over a snapshot, or the beginning of one. -/
def cycle (rotation : Rotation) (snapshot : Snapshot) (atMost : Option Nat) :
    List String × Rotation :=
  let length := snapshot.names.length
  rotation.picks snapshot ((atMost.map (min length)).getD length)

/-- Full cycles over two snapshots, taking turns; the longer one ends alone. -/
def alternate (rotation : Rotation) (first second : Snapshot) :
    Nat → Nat → List (Option String × Option String) × Rotation
  | 0, 0 => ([], rotation)
  | left + 1, 0 =>
    let (name, rotation) := rotation.pick first
    let (pairs, rotation) := rotation.alternate first second left 0
    ((some name, none) :: pairs, rotation)
  | 0, right + 1 =>
    let (name, rotation) := rotation.pick second
    let (pairs, rotation) := rotation.alternate first second 0 right
    ((none, some name) :: pairs, rotation)
  | left + 1, right + 1 =>
    let (one, rotation) := rotation.pick first
    let (other, rotation) := rotation.pick second
    let (pairs, rotation) := rotation.alternate first second left right
    ((some one, some other) :: pairs, rotation)

end Rotation
end ClusterPool
