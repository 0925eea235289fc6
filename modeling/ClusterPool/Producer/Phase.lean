import ClusterPool.Document.Values
import ClusterPool.Fault

/-! The phases a producer goes through, from creation over work to its end, and the moves between
them. No move leads back. -/
namespace ClusterPool
open Document

inductive Phase
  | created
  | started
  | stopping
  | stopped
  deriving DecidableEq, Inhabited

namespace Phase

def all : List Phase := [created, started, stopping, stopped]

def name : Phase → String
  | created => "Created"
  | started => "Started"
  | stopping => "Stopping"
  | stopped => "Stopped"

/-- Starting moves a created producer on, leaves a started one alone and is refused later. -/
def start (cluster : String) : Phase → Except Fault Phase
  | created | started => .ok started
  | phase => .error (.startFailed cluster ("cannot start from " ++ phase.name))

/-- The beginning of a stop, and whether there is anything to stop. A producer that never started
is stopped at once. -/
def beginStop : Phase → Bool × Phase
  | created => (false, stopped)
  | started => (true, stopping)
  | phase => (false, phase)

/-- The end of a stop, from whatever phase. -/
def finishStop : Phase → Phase := fun _ => stopped

/-- Only a started producer may work. -/
def ensureStarted (cluster : String) (phase : Phase) : Except Fault Unit :=
  if phase = started then .ok () else .error (.notStarted cluster)

/-- The phase of that name. -/
def named (name : String) : Except Mistake Phase :=
  match all.find? fun phase => phase.name == name with
  | some phase => .ok phase
  | none => .error (.unknownVariant name (all.map Phase.name))

/-- A phase stands in a document as its name, or as an object that gives null for its name. -/
def read : Reader Phase := do
  match ← Reader.peek with
  | none => throw .endsInValue
  | some '"' => named (← Reader.text)
  | some '{' =>
    Reader.advance
    match ← Reader.peek with
    | none => throw .endsInObject
    | some '"' =>
      let phase ← named (← Reader.text)
      Reader.colon
      Reader.null
      match ← Reader.peek with
      | none => throw .endsInObject
      | some '}' => Reader.advance; return phase
      | some _ => throw .valueExpected
    | some '}' => throw .valueExpected
    | some _ => throw .keyExpected
  | some _ => throw .valueExpected

instance : Documented Phase where
  read := read
  write phase := writtenText phase.name

end Phase
end ClusterPool
