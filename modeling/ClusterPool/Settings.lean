import ClusterPool.Document.Values
import ClusterPool.Fault
import ClusterPool.Text.Count

/-! How long a retired producer is kept, how often a pool reloads and reclaims, and the
environment that sets these lengths of time. -/
namespace ClusterPool
open Document

/-- The operating parameters of a pool. -/
structure Settings where
  /-- How long a retired producer stays alive. -/
  grace : Duration := .ofSeconds 60
  reloadEvery : Duration := .ofSeconds 60
  reclaimEvery : Duration := .ofSeconds 10
  deriving DecidableEq, Inhabited

/-- The node that hosts a pool, with settings that every producer receives. -/
structure Node where
  id : String := ""
  producerSettings : NameTable String := .empty
  deriving DecidableEq, Inhabited

namespace Settings

/-- The grace period in the unit of stamps. -/
def graceMillis (settings : Settings) : Int64 := settings.grace.clampedMillis

/-- What the environment holds for a name: bytes that need not be a text. -/
abbrev Environment := String → Option ByteArray

/-- The length of time that a variable gives in milliseconds. A variable that is unset, or that
is no text, leaves the preset. -/
def lengthFrom (environment : Environment) (name : String) (preset : Duration) :
    Except Fault Duration :=
  match (environment name).bind String.fromUTF8? with
  | none => .ok preset
  | some raw =>
    match Text.readCount (Text.trim raw.toList) with
    | .ok millis => .ok (.ofMillis millis.toUInt64)
    | .error fault =>
      .error (.misconfigured (name ++ "=" ++ Text.quote raw ++ ": " ++ fault.message))

def graceVariable : String := "DATAPROXY_SINK_GRACE_PERIOD_MS"
def reloadVariable : String := "DATAPROXY_SINK_RELOAD_INTERVAL_MS"
def reclaimVariable : String := "DATAPROXY_SINK_RECLAIM_INTERVAL_MS"

/-- The settings of an environment; the first bad variable is the one reported. -/
def ofEnvironment (environment : Environment) : Except Fault Settings := do
  let preset : Settings := {}
  return {
    grace := ← lengthFrom environment graceVariable preset.grace
    reloadEvery := ← lengthFrom environment reloadVariable preset.reloadEvery
    reclaimEvery := ← lengthFrom environment reclaimVariable preset.reclaimEvery }

def layout : Layout Settings Settings where
  title := "struct PoolConfig"
  blank := {}
  fields := [
    .needed "grace_period" Documented.read fun grace settings => { settings with grace },
    .needed "reload_interval" Documented.read fun reloadEvery settings =>
      { settings with reloadEvery },
    .needed "reclaim_interval" Documented.read fun reclaimEvery settings =>
      { settings with reclaimEvery }]
  finish := .ok

instance : Documented Settings where
  read := layout.read
  write settings := writtenObject [
    ("grace_period", Documented.write settings.grace),
    ("reload_interval", Documented.write settings.reloadEvery),
    ("reclaim_interval", Documented.write settings.reclaimEvery)]

/-- The settings as messages show them. -/
def describe (settings : Settings) : String :=
  "PoolConfig \x7b grace_period: " ++ settings.grace.describe ++ ", reload_interval: " ++
    settings.reloadEvery.describe ++ ", reclaim_interval: " ++ settings.reclaimEvery.describe ++
    " \x7d"

end Settings

namespace Node

def layout : Layout Node Node where
  title := "struct SinkContext"
  blank := {}
  fields := [
    .needed "node_id" Documented.read fun id node => { node with id },
    .optional "producer_settings" Documented.read fun producerSettings node =>
      { node with producerSettings }]
  finish := .ok

instance : Documented Node where
  read := layout.read
  write node := writtenObject [
    ("node_id", Documented.write node.id),
    ("producer_settings", Documented.write node.producerSettings)]

end Node
end ClusterPool
