import Reindex.Calls
import Reindex.Cluster.Basic
import Reindex.Naming.IndexName
import Reindex.Naming.TimeWindow
import Reindex.Text.Quoted

/-!
# Why a run is refused or ends

The causes that end a run against an index, and their wording.
-/

namespace Reindex

/-- How far the target index of a run has come. -/
inductive LifecycleState where
  | uninitialized
  | ensured
  | switched
  | skipped
deriving DecidableEq, Repr

def LifecycleState.name : LifecycleState → String
  | .uninitialized => "uninitialized"
  | .ensured => "ensured"
  | .switched => "switched"
  | .skipped => "skipped"

inductive Error where
  /-- A run that only updates has no index to write into. -/
  | indexNotFound (index : String)
  /-- The cluster did not get well enough in the given milliseconds. -/
  | clusterUnhealthy (status : Health) (timeout : Nat)
  /-- Several indices might be the one meant by an alias. -/
  | aliasAmbiguity (aliasName : String) (indices : List String)
  | invalidIndexName (name : String) (fault : NameFault)
  | invalidTimeWindow (pattern : String) (fault : PatternFault)
  /-- The alias was to be moved after that had been decided. -/
  | lifecycleFinished (state : LifecycleState)
  | cluster (failure : Failure)
deriving DecidableEq, Repr

def Error.message : Error → String
  | .indexNotFound index =>
    "💀 update mode requested, but index '" ++ index ++ "' does not exist. Nothing was written."
  | .clusterUnhealthy status timeout =>
    "💀 cluster health stayed '" ++ status.name ++ "' for " ++ Text.milliseconds timeout ++
      "; refusing to write into a cluster that cannot hold primaries"
  | .aliasAmbiguity name indices =>
    "💀 alias '" ++ name ++ "' resolves to more than one candidate index: " ++
      Text.quotedList indices
  | .invalidIndexName name fault => "💀 '" ++ name ++ "' is not a legal index name: " ++ fault.reason
  | .invalidTimeWindow pattern fault =>
    "💀 time window pattern '" ++ pattern ++ "' is not understood: " ++ fault.reason
  | .lifecycleFinished state =>
    "💀 the index lifecycle already finished (" ++ state.name ++ "); switch_index runs once per run"
  | .cluster failure => failure.message

/-- A call to a cluster as a step of a run. -/
def call {σ α : Type} (x : EStateM Failure σ α) : EStateM Error σ α := x.adaptExcept .cluster

variable {σ α : Type} {x : EStateM Failure σ α} {s t : σ}

theorem call_of_ok {a : α} (h : x s = .ok a t) : call x s = .ok a t := by
  unfold call EStateM.adaptExcept
  rw [h]

theorem call_of_error {failure : Failure} (h : x s = .error failure t) :
    call x s = .error (.cluster failure) t := by
  unfold call EStateM.adaptExcept
  rw [h]

theorem stateAfter_call (x : EStateM Failure σ α) (s : σ) :
    stateAfter (call x s) = stateAfter (x s) := by
  cases hx : x s with
  | ok a t => rw [call_of_ok hx]; rfl
  | error failure t => rw [call_of_error hx]; rfl

theorem call_eq_ok {a : α} (h : call x s = .ok a t) : x s = .ok a t := by
  cases hx : x s with
  | ok b u =>
    rw [call_of_ok hx] at h
    cases h
    rfl
  | error failure u =>
    rw [call_of_error hx] at h
    cases h

theorem call_eq_error {e : Error} (h : call x s = .error e t) :
    ∃ failure, e = .cluster failure := by
  cases hx : x s with
  | ok b u =>
    rw [call_of_ok hx] at h
    cases h
  | error failure u =>
    rw [call_of_error hx] at h
    cases h
    exact ⟨failure, rfl⟩

/-- As a step of a run, a call keeps what it keeps. -/
theorem Keeps.call {P : σ → Prop} (hx : Keeps P x) : Keeps P (call x) := by
  intro s hs
  rw [stateAfter_call]
  exact hx s hs

/-- It leads where it leads, too. -/
theorem Leads.call {P Q E : σ → Prop} (hx : Leads P x Q E) : Leads P (call x) Q E := by
  intro s hs
  cases h : x s with
  | ok a t =>
    rw [call_of_ok h]
    exact hx.of_ok hs h
  | error failure t =>
    rw [call_of_error h]
    exact hx.of_error hs h

end Reindex
