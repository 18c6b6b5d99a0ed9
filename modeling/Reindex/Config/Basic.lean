import Reindex.Cluster.Deployment
import Reindex.Session

/-!
# Configurations

What a run is told: which cluster, which index and how to build it, where the records are, and how
patient to be.
-/

namespace Reindex

structure IndexConfig where
  name : String
  /-- A date pattern; none if the index is not built anew for each date. -/
  timeWindow : Option String := none
  update : Bool := false
  delete : Bool := false
  settingsFile : Option String := none
  mappingsFile : Option String := none
  settings : Option Json := none
  mappings : Option Json := none
  tuning : Tuning := {}
deriving DecidableEq

structure RuntimeConfig where
  switchAlias : Bool := true
  healthTimeoutSecs : Nat := 60
  flushTimeoutSecs : Nat := 120
  progress : Bool := true
  backoff : BackoffPolicy := {}
deriving DecidableEq, Inhabited

/-- What a run is configured to do (`AppConfig`). -/
structure Config where
  cluster : ClusterConfig
  index : IndexConfig
  /-- None if the run only opens and closes the index. -/
  inputFile : Option String := none
  runtime : RuntimeConfig := {}
deriving DecidableEq

namespace Config

def namingPolicy (c : Config) : Except Error NamingPolicy :=
  NamingPolicy.make c.index.name c.index.timeWindow c.index.update

def sessionOptions (c : Config) : SessionOptions where
  lifecycle :=
    { updateMode := c.index.update, deleteRequested := c.index.delete,
      healthTimeout := c.runtime.healthTimeoutSecs * 1000 }
  writer := { backoff := c.runtime.backoff, flushTimeout := c.runtime.flushTimeoutSecs * 1000 }

/-- The files that a configuration names. -/
def filePaths (c : Config) : List String :=
  c.index.settingsFile.toList ++ c.index.mappingsFile.toList ++ c.inputFile.toList

end Config

end Reindex
