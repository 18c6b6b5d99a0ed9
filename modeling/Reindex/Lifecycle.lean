import Reindex.Bulk.Ledger
import Reindex.Naming.Policy
import Reindex.Tuning

/-!
# The life of a target index

A run first makes sure that its index is there and that the cluster can take writes
(`Lifecycle.start`). At its end the alias may be moved, once: all aliases of the index that carries
it now go over to the index of the run in a single update (`Lifecycle.switchIndex`). A run that
failed or wrote nothing never moves an alias.

Main statement: `switchIndex_of_finished` says that a lifecycle that was decided asks the cluster
nothing.
-/

namespace Reindex

/-! ## Creation payload -/

/-- What an index is created with. -/
structure IndexPayload where
  settings : Json
  mappings : Json
deriving DecidableEq

/-- A managed setting in creation settings, in one spelling: nested if there is an object `index`,
plain otherwise. -/
def manageSetting (key : String) (value : Json) (settings : List (String × Json)) :
    List (String × Json) :=
  let settings := Entries.erase ("index." ++ key) settings
  match Entries.get? "index" settings with
  | some (.object nested) =>
    Entries.erase key (Entries.insert "index" (.object (Entries.insert key value nested)) settings)
  | _ => Entries.insert key value settings

/-- The managed settings that a tuning gives, by name. -/
def Tuning.managed (t : Tuning) : List (String × Json) :=
  (t.replicas.map fun n => ("number_of_replicas", Json.ofNat n)).toList ++
    (t.refreshInterval.map fun r => ("refresh_interval", Json.string r)).toList

/-- Creation settings with the managed ones in place (`with_managed_settings`). What is no object
counts as empty. -/
def managedSettings (settings : Json) (t : Tuning) : Json :=
  .object (t.managed.foldl (fun s m => manageSetting m.1 m.2 s) (settings.asObject?.getD []))

/-! ## Outcomes -/

inductive SkipReason where
  | runFailed
  | nothingSucceeded
deriving DecidableEq, Repr

def SkipReason.text : SkipReason → String
  | .runFailed => "the run recorded failures"
  | .nothingSucceeded => "no document was written successfully"

/-- What became of the alias. -/
inductive SwitchOutcome where
  /-- These aliases moved, the main one among them. -/
  | switched (aliasName : String) (old : Option String) (new : String) (aliases : List String)
  | skipped (reason : SkipReason)
  /-- The alias is on the index of the run already. -/
  | alreadyCurrent
  | notRequested
  /-- The run has no alias. -/
  | notApplicable
deriving DecidableEq, Repr

def SwitchOutcome.text : SwitchOutcome → String
  | .switched name (some old) new _ => "switched '" ++ name ++ "' from '" ++ old ++ "' to '" ++
      new ++ "'"
  | .switched name none new _ => "switched '" ++ name ++ "' to '" ++ new ++ "'"
  | .skipped reason => "skipped (" ++ reason.text ++ ")"
  | .alreadyCurrent => "already current"
  | .notRequested => "not requested"
  | .notApplicable => "not applicable (no alias)"

/-! ## The cutover -/

/-- Which aliases go from which index to which (`AliasSwitchPlan`). -/
structure SwitchPlan where
  old : Option String
  new : String
  aliasName : String
  aliases : Aliases
deriving DecidableEq

/-- Every alias removed from the old index, then every alias added to the new one. -/
def SwitchPlan.actions (p : SwitchPlan) : List AliasAction :=
  (match p.old with
    | some old => p.aliases.keys.map fun name => AliasAction.remove old name
    | none => []) ++
    p.aliases.entries.map fun (name, filter) => AliasAction.add p.new name filter

/-- Aliases with one more, without a filter, unless it is among them. -/
def withAlias (aliases : Aliases) (name : String) : Aliases :=
  if aliases.contains name then aliases else aliases.insert name none

structure LifecycleOptions where
  /-- The index must be there; nothing is created or deleted. -/
  updateMode : Bool := false
  /-- The index is deleted and created again if it is there. -/
  deleteRequested : Bool := false
  /-- Milliseconds to wait for the cluster. -/
  healthTimeout : Nat := 60000
deriving DecidableEq, Repr, Inhabited

/-- The index of a run on its way to its alias (`IndexLifecycleManager`). -/
structure Lifecycle where
  identity : Identity
  tuning : Tuning
  options : LifecycleOptions
  state : LifecycleState
  /-- The index was created by this run. -/
  created : Bool
deriving DecidableEq, Repr

namespace Lifecycle

variable {σ τ : Type}

/-- Makes sure that the index is there; says whether it was created. -/
def ensureIndex (cluster : Cluster σ τ) (index : String) (tuning : Tuning) (payload : IndexPayload)
    (options : LifecycleOptions) : EStateM Error σ Bool := do
  let found ← call (cluster.indexExists index)
  if options.updateMode then
    if found then return false else throw (.indexNotFound index)
  else if found && !options.deleteRequested then return false
  else
    if found then call (cluster.deleteIndex index)
    call (cluster.createIndex index (managedSettings payload.settings tuning) payload.mappings)
    call (cluster.refreshIndex index)
    return true

/-- Waits until the cluster can hold what is written. -/
def awaitHealth (cluster : Cluster σ τ) (options : LifecycleOptions) : EStateM Error σ Unit := do
  let report ← call (cluster.waitForHealth .yellow options.healthTimeout)
  if report.timedOut then throw (.clusterUnhealthy report.status options.healthTimeout)

/-- Resolves the name, makes sure of the index and waits for the cluster
(`IndexLifecycleManager.open`). -/
def start (cluster : Cluster σ τ) (policy : NamingPolicy) (now : Instant) (tuning : Tuning)
    (payload : IndexPayload) (options : LifecycleOptions) : EStateM Error σ Lifecycle := do
  let identity ← policy.resolve cluster now
  let created ← ensureIndex cluster identity.index tuning payload options
  awaitHealth cluster options
  return { identity, tuning, options, state := .ensured, created }

/-- The index that carries an alias, if any (`current_alias_target`). -/
def aliasTarget (cluster : Cluster σ τ) (aliasName : String) : EStateM Error σ (Option String) := do
  match (← call (cluster.aliases (.ofAlias aliasName))).keys with
  | [] => return none
  | [only] => return some only
  | many => throw (.aliasAmbiguity aliasName many)

/-- The plan that moves the aliases of `old` to `new`. An old index that is gone has nothing to
give. -/
def planSwitch (cluster : Cluster σ τ) (aliasName : String) (old : Option String) (new : String) :
    EStateM Error σ SwitchPlan := do
  match old with
  | none => return ⟨none, new, aliasName, withAlias ∅ aliasName⟩
  | some old =>
    if ← call (cluster.indexExists old) then
      let attached ← call (cluster.aliases (.ofIndex old))
      return ⟨some old, new, aliasName, withAlias ((attached.get? old).getD ∅) aliasName⟩
    else return ⟨none, new, aliasName, withAlias ∅ aliasName⟩

/-- Why a tally keeps the alias where it is. -/
def skipReason? (tally : RunTally) : Option SkipReason :=
  if tally.failed then some .runFailed
  else if tally.counters.succeeded = 0 then some .nothingSucceeded
  else none

/-- Moves the aliases to the index of the run, if the tally is clean and there is an alias. It is
decided at most once; a call that fails leaves the decision open. -/
def switchIndex (cluster : Cluster σ τ) (l : Lifecycle) (tally : RunTally) :
    EStateM Error σ (SwitchOutcome × Lifecycle) := do
  if l.state ≠ .ensured then throw (.lifecycleFinished l.state)
  match l.identity.aliasName with
  | none => return (.notApplicable, l)
  | some aliasName =>
    match skipReason? tally with
    | some reason => return (.skipped reason, { l with state := .skipped })
    | none =>
      let old ← aliasTarget cluster aliasName
      if old = some l.identity.index then return (.alreadyCurrent, { l with state := .switched })
      let plan ← planSwitch cluster aliasName old l.identity.index
      call (cluster.updateAliases plan.actions)
      return (.switched aliasName plan.old l.identity.index plan.aliases.keys,
        { l with state := .switched })

/-- Once the alias has been decided on, nothing more is asked of the cluster. -/
theorem switchIndex_of_finished (cluster : Cluster σ τ) {l : Lifecycle} (h : l.state ≠ .ensured)
    (tally : RunTally) (s : σ) :
    switchIndex cluster l tally s = .error (.lifecycleFinished l.state) s := by
  simp only [switchIndex]
  rw [if_pos h]
  rfl

end Lifecycle

end Reindex
