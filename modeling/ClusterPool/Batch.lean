import ClusterPool.Document.Values
import ClusterPool.Time

/-! Batches of messages, the unit that a pool hands to one cluster. -/
namespace ClusterPool
open Document

/-- Messages packed together for one topic. A pool never looks into the payload. -/
structure Batch where
  group : String := ""
  stream : String := ""
  topic : String := ""
  payload : List UInt8 := []
  messages : UInt32 := 0
  dispatchedAt : Stamp := 0
  deriving DecidableEq, Inhabited

namespace Batch

/-- Bytes of payload. -/
def size (batch : Batch) : Nat := batch.payload.length

def layout : Layout Batch Batch where
  title := "struct BatchPack"
  blank := {}
  fields := [
    .needed "group_id" Documented.read fun group batch => { batch with group },
    .needed "stream_id" Documented.read fun stream batch => { batch with stream },
    .needed "topic" Documented.read fun topic batch => { batch with topic },
    .needed "payload" Reader.bytes fun payload batch => { batch with payload },
    .needed "message_count" Documented.read fun messages batch => { batch with messages },
    .needed "dispatch_time_ms" Documented.read fun dispatchedAt batch =>
      { batch with dispatchedAt }]
  finish := .ok

instance : Documented Batch where
  read := layout.read
  write batch := writtenObject [
    ("group_id", Documented.write batch.group),
    ("stream_id", Documented.write batch.stream),
    ("topic", Documented.write batch.topic),
    ("payload", writtenBytes batch.payload),
    ("message_count", Documented.write batch.messages),
    ("dispatch_time_ms", Documented.write batch.dispatchedAt)]

end Batch
end ClusterPool
