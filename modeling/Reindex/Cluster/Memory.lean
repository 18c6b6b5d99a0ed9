import Reindex.Cluster.Basic
import Reindex.Json.Reader
import Reindex.Json.Writer

/-!
# A cluster in memory

A cluster that lives in a value, for dry runs and for rehearsing what can go wrong: items that are
pushed back, calls that fail as a whole, documents that cannot be stored, and slow answers.

Main statements: `MemoryCluster.applyAll_length` and `MemoryCluster.applyAll_aligned` say that each
operation gets one result of its own kind and id.
-/

namespace Reindex

/-- One index: what it was created with, its effective settings, and what it holds
(`InMemoryIndex`). -/
structure MemoryIndex where
  settings : Json := .null
  mappings : Json := .null
  replicas : Nat
  refreshInterval : String
  docs : Dict String := ∅
  aliases : Aliases := ∅
  refreshCount : Nat := 0
deriving DecidableEq

/-- The state of the cluster, with a record of what was done to it (`InMemoryBackend`). -/
structure MemoryCluster where
  indices : Dict MemoryIndex := ∅
  health : Health := .green
  /-- Each accepted list of alias actions, in order. -/
  aliasUpdates : List (List AliasAction) := []
  /-- The number of operations of each bulk call, in order of arrival. -/
  bulkBatches : List Nat := []
  /-- Each accepted change of settings, in order. -/
  settingsHistory : List (String × SettingsUpdate) := []
  /-- Ids whose documents cannot be stored or merged. -/
  failingIds : List String := []
  /-- How many of the next bulk calls fail as a whole. -/
  transportFailures : Nat := 0
  transportRetryable : Bool := false
  /-- How many of the next operations are pushed back. -/
  rejections : Nat := 0
  /-- Milliseconds that a bulk call takes. -/
  latency : Nat := 0
deriving DecidableEq, Inhabited

/-! ## Settings given at creation -/

/-- A setting under any of its three spellings: nested under `index`, plain, or dotted. -/
def readSetting (settings : Json) (key : String) : Option Json :=
  ((settings.get? "index").bind (·.get? key)) <|> settings.get? key <|> settings.get?
    ("index." ++ key)

/-- The natural number that a text writes, with an optional plus sign, if it is below `2 ^ 32`. -/
def readReplicas (s : String) : Option Nat :=
  let digits := match s.toList with
    | '+' :: rest => rest
    | cs => cs
  if digits.isEmpty ∨ !digits.all Char.isDigit then none
  else
    let n := Nat.ofDigitChars 10 digits 0
    if n < UInt32.size then some n else none

/-- The number of replicas that creation settings ask for, or one (`replicas_from`). -/
def replicasOf (settings : Json) : Nat :=
  match readSetting settings "number_of_replicas" with
  | some (.number (.natural n)) => n % UInt32.size
  | some (.string s) => (readReplicas s).getD 1
  | _ => 1

/-- The refresh interval that creation settings ask for, or one second (`refresh_from`). -/
def refreshIntervalOf (settings : Json) : String :=
  ((readSetting settings "refresh_interval").bind (·.asString?)).getD "1s"

/-! ## Documents -/

/-- Why two documents cannot be merged. -/
inductive MergeFault where
  | storedNotJson
  | patchNotJson
  | notObjects
deriving DecidableEq, Repr

def MergeFault.message : MergeFault → String
  | .storedNotJson => "💀 stored document is not JSON. Who put that there?"
  | .patchNotJson => "💀 partial update body is not JSON"
  | .notObjects => "💀 partial updates need JSON objects on both sides"

/-- Members with others put into them. -/
def mergeMembers (base patch : List (String × Json)) : List (String × Json) :=
  patch.foldl (fun m e => Entries.insert e.1 e.2 m) base

/-- The stored document with the members of the patch in place of its own. -/
def mergeDocuments (stored patch : String) : Except MergeFault String :=
  match Json.parse stored, Json.parse patch with
  | .error _, _ => .error .storedNotJson
  | .ok _, .error _ => .error .patchNotJson
  | .ok (.object base), .ok (.object members) => .ok (Json.object (mergeMembers base members)).text
  | .ok _, .ok _ => .error .notObjects

/-- What one operation does to the documents of its index, and the status or the refusal. -/
def MemoryIndex.apply (ix : MemoryIndex) (op : Operation) : ItemResult × MemoryIndex :=
  match op.kind, op.body with
  | .index, some body =>
    (.done op (if ix.docs.contains op.id then 200 else 201),
      { ix with docs := ix.docs.insert op.id body })
  | .update, some patch =>
    match ix.docs.get? op.id with
    | none => (.refused op 404 ("document_missing_exception: [" ++ op.id ++ "]: document missing"),
      ix)
    | some stored =>
      match mergeDocuments stored patch with
      | .error fault => (.refused op 400 fault.message, ix)
      | .ok merged => (.done op 200, { ix with docs := ix.docs.insert op.id merged })
  | .delete, _ =>
    (.done op (if ix.docs.contains op.id then 200 else 404),
      { ix with docs := ix.docs.erase op.id })
  | _, none => (.refused op 400 "action_request_validation_exception: source is missing", ix)

theorem MemoryIndex.apply_aligned (ix : MemoryIndex) (op : Operation) :
    (ix.apply op).1.kind = op.kind ∧ (ix.apply op).1.id = op.id := by
  simp only [MemoryIndex.apply]
  split
  · exact ⟨rfl, rfl⟩
  · split
    · exact ⟨rfl, rfl⟩
    · split <;> exact ⟨rfl, rfl⟩
  · exact ⟨rfl, rfl⟩
  · exact ⟨rfl, rfl⟩

namespace MemoryCluster

/-- A document of the operation cannot be stored or merged. -/
def isPoisoned (c : MemoryCluster) (op : Operation) : Bool :=
  op.kind != .delete && c.failingIds.contains op.id

/-- One operation of a bulk call. -/
def apply (c : MemoryCluster) (index : String) (op : Operation) : ItemResult × MemoryCluster :=
  if c.rejections > 0 then
    (.refused op ItemResult.tooManyRequests "es_rejected_execution_exception: queue full",
      { c with rejections := c.rejections - 1 })
  else
    match c.indices.get? index with
    | none => (.refused op 404 ("index_not_found_exception: no such index [" ++ index ++ "]"), c)
    | some ix =>
      if c.isPoisoned op then (.refused op 400 "mapper_parsing_exception: failed to parse", c)
      else
        let applied := ix.apply op
        (applied.1, { c with indices := c.indices.insert index applied.2 })

/-- The operations of a bulk call one after another. -/
def applyAll (index : String) : List Operation → MemoryCluster → List ItemResult × MemoryCluster
  | [], c => ([], c)
  | op :: ops, c =>
    let first := c.apply index op
    let rest := applyAll index ops first.2
    (first.1 :: rest.1, rest.2)

/-- A bulk call when its time has come. -/
def bulk (index : String) (ops : List Operation) (c : MemoryCluster) : BulkAnswer × MemoryCluster :=
  let c := { c with bulkBatches := c.bulkBatches ++ [ops.length] }
  if c.transportFailures > 0 then
    (.failed ⟨"🌩️ simulated transport failure", c.transportRetryable⟩,
      { c with transportFailures := c.transportFailures - 1 })
  else
    let applied := applyAll index ops c
    (.items applied.1, applied.2)

/-! ## Aliases -/

/-- The alias table as a look-up shows it; indices without a matching alias are left out
(`get_aliases`). -/
def aliasTable (c : MemoryCluster) (lookup : AliasLookup) : AliasTable :=
  c.indices.filterMap fun name ix =>
    let shown : Aliases := match lookup with
      | .ofAlias aliasName => ix.aliases.filterMap fun a filter => if a = aliasName then some filter
        else none
      | .ofIndex index => if index = name then ix.aliases else ∅
    if shown.isEmpty then none else some shown

/-- An index with a changed alias table. -/
def withAliases (indices : Dict MemoryIndex) (index : String) (f : Aliases → Aliases) :
    Dict MemoryIndex :=
  match indices.get? index with
  | some ix => indices.insert index { ix with aliases := f ix.aliases }
  | none => indices

/-- What one alias action does. -/
def applyAction (indices : Dict MemoryIndex) : AliasAction → Dict MemoryIndex
  | .add index aliasName filter => withAliases indices index (·.insert aliasName filter)
  | .remove index aliasName => withAliases indices index (·.erase aliasName)

/-! ## The calls -/

/-- A change of one index, or the failure if there is none of that name. -/
def change (index : String) (failure : Failure) (f : MemoryIndex → MemoryIndex) :
    EStateM Failure MemoryCluster Unit := fun c =>
  match c.indices.get? index with
  | some ix => .ok () { c with indices := c.indices.insert index (f ix) }
  | none => .error failure c

def createIndex (index : String) (settings mappings : Json) : EStateM Failure MemoryCluster Unit :=
  fun c =>
  if c.indices.contains index then .error (.alreadyExists index) c
  else
    let created : MemoryIndex :=
      { settings, mappings, replicas := replicasOf settings,
        refreshInterval := refreshIntervalOf settings }
    .ok () { c with indices := c.indices.insert index created }

def deleteIndex (index : String) : EStateM Failure MemoryCluster Unit := fun c =>
  if c.indices.contains index then .ok () { c with indices := c.indices.erase index }
  else .error (.noSuchIndex index) c

def refreshIndex (index : String) : EStateM Failure MemoryCluster Unit :=
  change index (.refreshOfMissing index) fun ix => { ix with refreshCount := ix.refreshCount + 1 }

def updateAliases (actions : List AliasAction) : EStateM Failure MemoryCluster Unit := fun c =>
  match actions.find? fun a => !c.indices.contains a.index with
  | some a => .error (.aliasActionOnMissing a.index) c
  | none =>
    .ok () { c with indices := actions.foldl applyAction c.indices, aliasUpdates := c.aliasUpdates ++ [actions] }

def updateSettings (index : String) (update : SettingsUpdate) :
    EStateM Failure MemoryCluster Unit := do
  change index (.settingsOfMissing index) fun ix =>
    { ix with
      replicas := update.replicas.getD ix.replicas
      refreshInterval := update.refreshInterval.getD ix.refreshInterval }
  modify fun c => { c with settingsHistory := c.settingsHistory ++ [(index, update)] }

def putDocument (index id body : String) : EStateM Failure MemoryCluster Unit :=
  change index (.documentIntoMissing id index) fun ix => { ix with docs := ix.docs.insert id body }

/-- A document of an index; none if either is missing. -/
def getDocument (c : MemoryCluster) (index id : String) : Option String :=
  (c.indices.get? index).bind (·.docs.get? id)

/-- The cluster in memory as a cluster. Health is what it is, without waiting. -/
def cluster : Cluster MemoryCluster Unit where
  indexExists index := return (← get).indices.contains index
  createIndex := createIndex
  deleteIndex := deleteIndex
  refreshIndex := refreshIndex
  waitForHealth least _ := return ⟨(← get).health.worse least, (← get).health⟩
  aliases lookup := return (← get).aliasTable lookup
  updateAliases := updateAliases
  updateSettings := updateSettings
  beginBulk _ _ _ c := ((c.latency, ()), c)
  finishBulk _ := bulk
  getDocument index id := return (← get).getDocument index id
  putDocument := putDocument

/-! ## Setting the scene -/

/-- Adds aliases and documents to an index, which is created if it is not there (`seed_index`). -/
def seed (c : MemoryCluster) (index : String) (aliases : Aliases) (docs : Dict String) :
    MemoryCluster :=
  let ix := (c.indices.get? index).getD { replicas := 1, refreshInterval := "1s" }
  let ix := { ix with aliases := ix.aliases.mergeInto aliases, docs := ix.docs.mergeInto docs }
  { c with indices := c.indices.insert index ix }

/-! ## Results are aligned with operations -/

theorem apply_aligned (c : MemoryCluster) (index : String) (op : Operation) :
    (c.apply index op).1.kind = op.kind ∧ (c.apply index op).1.id = op.id := by
  simp only [apply]
  split
  · exact ⟨rfl, rfl⟩
  · split
    · exact ⟨rfl, rfl⟩
    · split
      · exact ⟨rfl, rfl⟩
      · exact MemoryIndex.apply_aligned _ op

theorem applyAll_length (index : String) (ops : List Operation) (c : MemoryCluster) :
    (applyAll index ops c).1.length = ops.length := by
  induction ops generalizing c with
  | nil => rfl
  | cons op ops ih => simp [applyAll, ih]

theorem applyAll_aligned (index : String) (ops : List Operation) (c : MemoryCluster) :
    (applyAll index ops c).1.map (fun r => (r.kind, r.id)) = ops.map fun op =>
    (op.kind, op.id) := by
  induction ops generalizing c with
  | nil => rfl
  | cons op ops ih =>
    have h := apply_aligned c index op
    simp [applyAll, ih, h.1, h.2]

end MemoryCluster

end Reindex
