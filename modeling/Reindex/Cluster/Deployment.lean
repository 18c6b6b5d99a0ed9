import Reindex.Cluster.Memory
import Reindex.Cluster.Rest.Client

/-!
# Deployments

A configuration names the cluster that a run works against: one in memory, or one behind a REST
interface. `Deployment.cluster` is either of them as a cluster.
-/

namespace Reindex

/-- Versions of the REST interface. -/
inductive RestVersion where
  | v6
  | v7
  | v8
deriving DecidableEq, Repr, Inhabited

def RestVersion.name : RestVersion → String
  | .v6 => "v6"
  | .v7 => "v7"
  | .v8 => "v8"

structure RestConfig where
  url : String
  version : RestVersion := .v7
  /-- Counts for version 6 only. -/
  mappingType : String := "_doc"
  credentials : Credentials := {}
  connectTimeoutSecs : Nat := 10
  requestTimeoutSecs : Nat := 30
deriving DecidableEq, Repr

def RestConfig.generation (c : RestConfig) : ApiGeneration :=
  match c.version with
  | .v6 => .typed c.mappingType
  | .v7 | .v8 => .typeless

inductive ClusterConfig where
  | memory (health : Health)
  | rest (config : RestConfig)
deriving DecidableEq, Repr

/-- A cluster with its state. -/
inductive Deployment where
  | memory (state : MemoryCluster)
  | rest (client : RestClient) (wire : Wire)

namespace Deployment

/-- The deployment that a configuration names, with nothing in it or sent to it. -/
def ofConfig (c : ClusterConfig) (wire : Wire) : Except Failure Deployment :=
  match c with
  | .memory health => .ok (.memory { health })
  | .rest config => (RestClient.ofAddress config.url config.generation config.credentials).map
    (.rest · wire)

/-- A call to whichever cluster it is. -/
def dispatch {α : Type} (m : EStateM Failure MemoryCluster α)
    (r : RestClient → EStateM Failure Wire α) :
    EStateM Failure Deployment α
  | .memory state =>
    match m state with
    | .ok a state => .ok a (.memory state)
    | .error e state => .error e (.memory state)
  | .rest client wire =>
    match r client wire with
    | .ok a wire => .ok a (.rest client wire)
    | .error e wire => .error e (.rest client wire)

def cluster : Cluster Deployment Unit where
  indexExists index :=
    dispatch (MemoryCluster.cluster.indexExists index) (·.cluster.indexExists index)
  createIndex index settings mappings :=
    dispatch (MemoryCluster.cluster.createIndex index settings mappings)
      (·.cluster.createIndex index settings mappings)
  deleteIndex index :=
    dispatch (MemoryCluster.cluster.deleteIndex index) (·.cluster.deleteIndex index)
  refreshIndex index :=
    dispatch (MemoryCluster.cluster.refreshIndex index) (·.cluster.refreshIndex index)
  waitForHealth least timeout :=
    dispatch (MemoryCluster.cluster.waitForHealth least timeout)
      (·.cluster.waitForHealth least timeout)
  aliases lookup := dispatch (MemoryCluster.cluster.aliases lookup) (·.cluster.aliases lookup)
  updateAliases actions :=
    dispatch (MemoryCluster.cluster.updateAliases actions) (·.cluster.updateAliases actions)
  updateSettings index update :=
    dispatch (MemoryCluster.cluster.updateSettings index update)
      (·.cluster.updateSettings index update)
  beginBulk now index ops
    | .memory state =>
      let begun := MemoryCluster.cluster.beginBulk now index ops state
      (begun.1, .memory begun.2)
    | .rest client wire =>
      let begun := client.cluster.beginBulk now index ops wire
      (begun.1, .rest client begun.2)
  finishBulk ticket index ops
    | .memory state =>
      let ended := MemoryCluster.cluster.finishBulk ticket index ops state
      (ended.1, .memory ended.2)
    | .rest client wire =>
      let ended := client.cluster.finishBulk ticket index ops wire
      (ended.1, .rest client ended.2)
  getDocument index id :=
    dispatch (MemoryCluster.cluster.getDocument index id) (·.cluster.getDocument index id)
  putDocument index id body :=
    dispatch (MemoryCluster.cluster.putDocument index id body) (·.cluster.putDocument index id body)

end Deployment

end Reindex
