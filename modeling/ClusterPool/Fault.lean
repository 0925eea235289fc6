import ClusterPool.Document.Mistake

/-! Everything that can fail in a zone, each with its one message. -/
namespace ClusterPool

inductive Fault
  /-- No route of the pool has a live producer. -/
  | noRoute (pool : String)
  | sendFailed (cluster reason : String)
  /-- A producer that is not started was asked to send or to publish. -/
  | notStarted (cluster : String)
  | startFailed (cluster reason : String)
  | stopFailed (cluster reason : String)
  /-- The catalog could not be fetched. -/
  | catalogUnavailable (text : String)
  | misconfigured (text : String)
  | transfer (text : String)
  | document (mistake : Document.Mistake)
  /-- A background task ended before it was asked to. -/
  | taskLost
  deriving DecidableEq, Inhabited

namespace Fault

/-- Whether the fault belongs to sending, and so may reach whoever sends. -/
def isDispatch : Fault → Bool
  | noRoute _ | sendFailed .. | notStarted _ => true
  | _ => false

def message : Fault → String
  | noRoute pool => "No cluster available for pool '" ++ pool ++ "'"
  | sendFailed cluster reason => "Send to cluster '" ++ cluster ++ "' failed: " ++ reason
  | notStarted cluster => "Producer for cluster '" ++ cluster ++ "' is not started"
  | startFailed cluster reason =>
    "Failed to start producer for cluster '" ++ cluster ++ "': " ++ reason
  | stopFailed cluster reason =>
    "Failed to stop producer for cluster '" ++ cluster ++ "': " ++ reason
  | catalogUnavailable text => "Config source error: " ++ text
  | misconfigured text => "Configuration error: " ++ text
  | transfer text => "IO error: " ++ text
  | document mistake => "JSON error: " ++ mistake.message
  | taskLost => "Join error: the task has ended"

end Fault
end ClusterPool
