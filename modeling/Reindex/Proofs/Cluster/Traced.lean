import Reindex.Calls
import Reindex.Cluster.Basic

/-!
# A traced cluster

Any cluster, with a trace of the calls that it was asked for and of whether it accepted them. It
answers as the cluster does. A bulk call leaves two events, one where it is begun and one where it
is finished, since others may come between them.

Main statement: `Traced.leads_record`, by which what a call makes of the trace is known from the one
event that it leaves.
-/

namespace Reindex

variable {σ τ α : Type}

/-- A call that a cluster was asked for. -/
inductive ClusterCall where
  | indexExists (index : String)
  | createIndex (index : String) (settings mappings : Json)
  | deleteIndex (index : String)
  | refreshIndex (index : String)
  | waitForHealth (least : Health) (timeout : Nat)
  | aliases (lookup : AliasLookup)
  | updateAliases (actions : List AliasAction)
  | updateSettings (index : String) (update : SettingsUpdate)
  | beginBulk (index : String) (ops : List Operation)
  | finishBulk (index : String) (ops : List Operation)
  | getDocument (index id : String)
  | putDocument (index id body : String)
deriving DecidableEq

/-- A call in a trace. The two ends of a bulk call are always accepted; what became of it is in its
answer. -/
structure ClusterEvent where
  call : ClusterCall
  accepted : Bool := true
deriving DecidableEq

/-- The state of a cluster with what it was asked for, oldest first. -/
structure Traced (σ : Type) where
  state : σ
  trace : List ClusterEvent := []

/-- A call, into the trace. -/
def Traced.record (call : ClusterCall) (x : EStateM Failure σ α) : EStateM Failure (Traced σ) α :=
  fun w =>
  match x w.state with
  | .ok a s => .ok a { state := s, trace := w.trace ++ [⟨call, true⟩] }
  | .error e s => .error e { state := s, trace := w.trace ++ [⟨call, false⟩] }

/-- A cluster that is traced. -/
def Cluster.traced (c : Cluster σ τ) : Cluster (Traced σ) τ where
  indexExists index := Traced.record (.indexExists index) (c.indexExists index)
  createIndex index settings mappings :=
    Traced.record (.createIndex index settings mappings) (c.createIndex index settings mappings)
  deleteIndex index := Traced.record (.deleteIndex index) (c.deleteIndex index)
  refreshIndex index := Traced.record (.refreshIndex index) (c.refreshIndex index)
  waitForHealth least timeout :=
    Traced.record (.waitForHealth least timeout) (c.waitForHealth least timeout)
  aliases lookup := Traced.record (.aliases lookup) (c.aliases lookup)
  updateAliases actions := Traced.record (.updateAliases actions) (c.updateAliases actions)
  updateSettings index update :=
    Traced.record (.updateSettings index update) (c.updateSettings index update)
  beginBulk now index ops w :=
    let begun := c.beginBulk now index ops w.state
    (begun.1, { state := begun.2, trace := w.trace ++ [⟨.beginBulk index ops, true⟩] })
  finishBulk ticket index ops w :=
    let ended := c.finishBulk ticket index ops w.state
    (ended.1, { state := ended.2, trace := w.trace ++ [⟨.finishBulk index ops, true⟩] })
  getDocument index id := Traced.record (.getDocument index id) (c.getDocument index id)
  putDocument index id body :=
    Traced.record (.putDocument index id body) (c.putDocument index id body)

theorem Traced.trace_record (call : ClusterCall) (x : EStateM Failure σ α) (w : Traced σ) :
    (stateAfter (record call x w)).trace = w.trace ++ [⟨call, worked (x w.state)⟩] := by
  unfold record
  cases x w.state <;> rfl

/-- A call adds one event to the trace, which says whether it was accepted. -/
theorem Traced.leads_record {P Q E : List ClusterEvent → Prop} (call : ClusterCall)
    (x : EStateM Failure σ α) (accepted : ∀ t, P t → Q (t ++ [⟨call, true⟩]))
    (refused : ∀ t, P t → E (t ++ [⟨call, false⟩])) :
    Leads (fun w : Traced σ => P w.trace) (record call x) (fun w => Q w.trace) fun w =>
      E w.trace := by
  intro w hw
  unfold record
  cases x w.state with
  | ok a s => exact accepted _ hw
  | error e s => exact refused _ hw

/-! ## What a trace tells -/

/-- One end of a bulk call. -/
def ClusterEvent.isBulk : ClusterEvent → Bool
  | ⟨.beginBulk _ _, _⟩ => true
  | ⟨.finishBulk _ _, _⟩ => true
  | _ => false

/-- A bulk call that was sent: its index and its operations. -/
def ClusterEvent.sent? : ClusterEvent → Option (String × List Operation)
  | ⟨.beginBulk index ops, _⟩ => some (index, ops)
  | _ => none

/-- A bulk call that was answered. -/
def ClusterEvent.answered? : ClusterEvent → Option (String × List Operation)
  | ⟨.finishBulk index ops, _⟩ => some (index, ops)
  | _ => none

/-- The bulk calls that were sent. -/
def sentCalls (trace : List ClusterEvent) : List (String × List Operation) :=
  trace.filterMap ClusterEvent.sent?

/-- The bulk calls that were answered. -/
def answeredCalls (trace : List ClusterEvent) : List (String × List Operation) :=
  trace.filterMap ClusterEvent.answered?

@[simp] theorem sentCalls_append (t u : List ClusterEvent) :
    sentCalls (t ++ u) = sentCalls t ++ sentCalls u :=
  List.filterMap_append

@[simp] theorem answeredCalls_append (t u : List ClusterEvent) :
    answeredCalls (t ++ u) = answeredCalls t ++ answeredCalls u := List.filterMap_append

theorem ClusterEvent.calls_of_other {e : ClusterEvent} (h : e.isBulk = false) :
    e.sent? = none ∧ e.answered? = none := by
  obtain ⟨call, accepted⟩ := e
  cases call with
  | beginBulk index ops => cases h
  | finishBulk index ops => cases h
  | _ => exact ⟨rfl, rfl⟩

/-- Where there is no bulk call, none was sent or answered. -/
theorem calls_of_no_bulk {trace : List ClusterEvent} (h : ∀ e ∈ trace, e.isBulk = false) :
    sentCalls trace = [] ∧ answeredCalls trace = [] := by
  constructor
  · exact List.filterMap_eq_nil_iff.2 fun e he => (ClusterEvent.calls_of_other (h e he)).1
  · exact List.filterMap_eq_nil_iff.2 fun e he => (ClusterEvent.calls_of_other (h e he)).2

/-- An update of the settings of an index, with whether it was accepted. -/
structure SettingsEvent where
  index : String
  update : SettingsUpdate
  accepted : Bool
deriving DecidableEq

def ClusterEvent.settings? : ClusterEvent → Option SettingsEvent
  | ⟨.updateSettings index update, accepted⟩ => some ⟨index, update, accepted⟩
  | _ => none

/-- The settings updates in a trace. -/
def settingsEvents (trace : List ClusterEvent) : List SettingsEvent :=
  trace.filterMap ClusterEvent.settings?

@[simp] theorem settingsEvents_append (t u : List ClusterEvent) :
    settingsEvents (t ++ u) = settingsEvents t ++ settingsEvents u := List.filterMap_append

/-- An event that has nothing to do with the settings. -/
theorem settingsEvents_pass (t : List ClusterEvent) {e : ClusterEvent} (he : e.settings? = none) :
    settingsEvents (t ++ [e]) = settingsEvents t := by
  simp [settingsEvents, he]

/-- The updates that a cluster accepted for an index. -/
def acceptedFor (index : String) (events : List SettingsEvent) : List SettingsUpdate :=
  (events.filter fun e => e.accepted && e.index == index).map (·.update)

theorem acceptedFor_append (index : String) (es fs : List SettingsEvent) :
    acceptedFor index (es ++ fs) = acceptedFor index es ++ acceptedFor index fs := by
  simp [acceptedFor]

end Reindex
