import Reindex.Cluster.Failure
import Reindex.Json.Basic
import Reindex.Operation

/-!
# Clusters

`Cluster σ τ` is what a run needs of a search cluster: each call maps the state `σ` of the cluster
to an answer and the next state. All calls are instantaneous but the bulk call, which is begun and
finished; between the two the cluster remembers a ticket `τ` and time may pass.
-/

namespace Reindex

/-- How well a cluster is (`HealthStatus`). -/
inductive Health where
  | red
  | yellow
  | green
deriving DecidableEq, Repr, Inhabited

namespace Health

def name : Health → String
  | .red => "red"
  | .yellow => "yellow"
  | .green => "green"

/-- The health with a name. -/
def ofName? : String → Option Health
  | "red" => some .red
  | "yellow" => some .yellow
  | "green" => some .green
  | _ => none

/-- From bad to good. -/
def rank : Health → Nat
  | .red => 0
  | .yellow => 1
  | .green => 2

/-- Worse than another health. -/
def worse (a b : Health) : Bool := decide (a.rank < b.rank)

end Health

structure HealthReport where
  timedOut : Bool
  status : Health
deriving DecidableEq, Repr

/-- The aliases of one index, each with its filter if it has one. -/
abbrev Aliases := Dict (Option Json)

/-- The aliases of several indices. -/
abbrev AliasTable := Dict Aliases

inductive AliasLookup where
  /-- Every index that carries the alias. -/
  | ofAlias (aliasName : String)
  /-- One index with all its aliases. -/
  | ofIndex (index : String)
deriving DecidableEq, Repr

inductive AliasAction where
  | add (index aliasName : String) (filter : Option Json)
  | remove (index aliasName : String)
deriving DecidableEq, Repr

/-- The index that an action changes. -/
def AliasAction.index : AliasAction → String
  | .add index _ _ => index
  | .remove index _ => index

/-- New values for the managed settings; `none` leaves one as it is. -/
structure SettingsUpdate where
  replicas : Option Nat
  refreshInterval : Option String
deriving DecidableEq, Repr

def SettingsUpdate.isEmpty (u : SettingsUpdate) : Bool :=
  u.replicas.isNone && u.refreshInterval.isNone

/-- A bulk call that got no answer for its operations (`BulkTransportError`). -/
structure BulkFailure where
  message : String
  retryable : Bool
deriving DecidableEq, Repr

/-- A failure worth another attempt. -/
def BulkFailure.passing (message : String) : BulkFailure := ⟨message, true⟩

/-- A failure that another attempt would meet again. -/
def BulkFailure.lasting (message : String) : BulkFailure := ⟨message, false⟩

/-- How a bulk call ends. -/
inductive BulkAnswer where
  /-- One result for each operation, in order. -/
  | items (results : List ItemResult)
  | failed (failure : BulkFailure)
  /-- The call ended without saying anything. -/
  | died
deriving DecidableEq, Repr

/-- A cluster with state `σ`, by the calls that it takes (`SearchBackend`). -/
structure Cluster (σ τ : Type) where
  indexExists : String → EStateM Failure σ Bool
  createIndex (index : String) (settings mappings : Json) : EStateM Failure σ Unit
  deleteIndex : String → EStateM Failure σ Unit
  refreshIndex : String → EStateM Failure σ Unit
  /-- Waits until the cluster is at least that well, but no longer than so many milliseconds. -/
  waitForHealth (least : Health) (timeout : Nat) : EStateM Failure σ HealthReport
  aliases : AliasLookup → EStateM Failure σ AliasTable
  /-- Carries out all of the actions or none. -/
  updateAliases : List AliasAction → EStateM Failure σ Unit
  updateSettings (index : String) (update : SettingsUpdate) : EStateM Failure σ Unit
  /-- Begins a bulk call at a time: how many milliseconds later it is finished, and its ticket. -/
  beginBulk (now : Nat) (index : String) (ops : List Operation) : σ → (Nat × τ) × σ
  finishBulk (ticket : τ) (index : String) (ops : List Operation) : σ → BulkAnswer × σ
  getDocument (index id : String) : EStateM Failure σ (Option String)
  putDocument (index id body : String) : EStateM Failure σ Unit

/-- A bulk call whose end is waited for. -/
def Cluster.bulk {σ τ : Type} (c : Cluster σ τ) (now : Nat) (index : String) (ops : List Operation)
    (s : σ) :
    BulkAnswer × σ :=
  let begun := c.beginBulk now index ops s
  c.finishBulk begun.1.2 index ops begun.2

end Reindex
