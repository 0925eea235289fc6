import ClusterPool.Cluster

/-! Which of the configured clusters a pool serves: all of them, or the few with the least ranks.
The rank of a cluster depends on its name and on who asks, so that different pools spread over
different clusters. It is taken with the keyed hash SipHash with two rounds for every word and four at
the end, under the key zero. -/
namespace ClusterPool.SipHash

/-- The four words of the inner state. -/
structure State where
  a : UInt64
  b : UInt64
  c : UInt64
  d : UInt64

def rotate (word bits : UInt64) : UInt64 := (word <<< bits) ||| (word >>> (64 - bits))

def round (state : State) : State :=
  let a := state.a + state.b
  let b := rotate state.b 13 ^^^ a
  let a := rotate a 32
  let c := state.c + state.d
  let d := rotate state.d 16 ^^^ c
  let a := a + d
  let d := rotate d 21 ^^^ a
  let c := c + b
  let b := rotate b 17 ^^^ c
  let c := rotate c 32
  ⟨a, b, c, d⟩

/-- The state before the first word. -/
def start : State :=
  ⟨0x736f6d6570736575, 0x646f72616e646f6d, 0x6c7967656e657261, 0x7465646279746573⟩

/-- Takes in one word of the message. -/
def absorb (state : State) (word : UInt64) : State :=
  let state := round (round { state with d := state.d ^^^ word })
  { state with a := state.a ^^^ word }

/-- Bytes as a word, the least byte first. -/
def word (bytes : List UInt8) : UInt64 :=
  bytes.foldr (fun byte value => (value <<< 8) ||| byte.toUInt64) 0

/-- Takes in the full words of a message, then its last bytes under its length. -/
def absorbAll (state : State) (length : Nat) : List UInt8 → State
  | b0 :: b1 :: b2 :: b3 :: b4 :: b5 :: b6 :: b7 :: rest =>
    absorbAll (absorb state (word [b0, b1, b2, b3, b4, b5, b6, b7])) length rest
  | rest => absorb state (word rest ||| (length.toUInt64 <<< 56))

def hash (bytes : List UInt8) : UInt64 :=
  let state := absorbAll start bytes.length bytes
  let state := { state with c := state.c ^^^ 0xff }
  let state := round (round (round (round state)))
  state.a ^^^ state.b ^^^ state.c ^^^ state.d

end ClusterPool.SipHash

namespace ClusterPool

/-- How a pool narrows the configured clusters. -/
inductive Selection
  | all
  | ranked (identity : String) (atMost : Nat)
  deriving DecidableEq, Inhabited

namespace Selection

/-- What the rank is taken from: the bytes of both names, each closed by a byte that no text
contains. -/
def rankInput (identity cluster : String) : List UInt8 :=
  identity.toUTF8.toList ++ 0xff :: (cluster.toUTF8.toList ++ [0xff])

def rank (identity cluster : String) : UInt64 := SipHash.hash (rankInput identity cluster)

/-- The order of ranks; of equal ranks the earlier place comes first. -/
def precedes (first second : UInt64 × Nat) : Bool :=
  first.1 < second.1 || (first.1 == second.1 && first.2 ≤ second.2)

/-- The places of the least ranks. -/
def leastPlaces (rankOf : α → UInt64) (count : Nat) (items : List α) : List Nat :=
  let ranked := items.zipIdx.map fun item => (rankOf item.1, item.2)
  ((ranked.mergeSort precedes).take count).map (·.2)

/-- The items with the least ranks, in the order they were given in. -/
def leastRanked (rankOf : α → UInt64) (count : Nat) (items : List α) : List α :=
  if items.length ≤ count then items
  else
    let places := leastPlaces rankOf count items
    (items.zipIdx.filter fun item => places.contains item.2).map (·.1)

def select (selection : Selection) (clusters : List Cluster) : List Cluster :=
  match selection with
  | all => clusters
  | ranked identity atMost =>
    leastRanked (fun cluster => rank identity cluster.name) atMost clusters

end Selection
end ClusterPool
