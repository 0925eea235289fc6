import ClusterPool.Document.Values

/-! Backend clusters, as they are configured. A cluster is known by its name; its address and its
parameters are only passed on. -/
namespace ClusterPool
open Document

structure Cluster where
  name : String := ""
  url : String := ""
  params : NameTable String := .empty
  deriving DecidableEq, Inhabited

namespace Cluster

def layout : Layout Cluster Cluster where
  title := "struct ClusterConfig"
  blank := {}
  fields := [
    .needed "cluster_name" Documented.read fun name cluster => { cluster with name },
    .needed "url" Documented.read fun url cluster => { cluster with url },
    .optional "params" Documented.read fun params cluster => { cluster with params }]
  finish := .ok

instance : Documented Cluster where
  read := layout.read
  write cluster := writtenObject [
    ("cluster_name", Documented.write cluster.name),
    ("url", Documented.write cluster.url),
    ("params", Documented.write cluster.params)]

/-- Each name once, where it comes first. -/
def firstOfEachName (clusters : List Cluster) : List Cluster :=
  go [] clusters
where
  /-- The clusters whose names are neither in `seen` nor earlier in the list. -/
  go (seen : List String) : List Cluster → List Cluster
    | [] => []
    | cluster :: rest =>
      if seen.contains cluster.name then go seen rest
      else cluster :: go (cluster.name :: seen) rest

end Cluster

/-- The clusters and topics that a document announces. -/
structure Inventory where
  clusters : List Cluster := []
  topics : NameSet := .empty
  deriving DecidableEq, Inhabited

namespace Inventory

def layout : Layout Inventory Inventory where
  title := "struct SinkMetaFile"
  blank := {}
  fields := [
    .optional "clusters" Documented.read fun clusters inventory => { inventory with clusters },
    .optional "topics" Documented.read fun topics inventory => { inventory with topics }]
  finish := .ok

instance : Documented Inventory where
  read := layout.read
  write inventory := writtenObject [
    ("clusters", Documented.write inventory.clusters),
    ("topics", Documented.write inventory.topics)]

end Inventory
end ClusterPool
