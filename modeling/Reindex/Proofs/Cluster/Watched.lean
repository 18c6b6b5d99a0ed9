import Reindex.Proofs.Lifecycle.Start
import Reindex.Proofs.Writer.Course

/-!
# A watched cluster

Any cluster, with a record of the alias updates that it was asked for and of whether they worked. It
answers as the cluster does; nothing else goes into the record.

Main statements: `Cluster.watched_steady` and `Cluster.watched_prepares` say that no call of a
writer, and none that a run starts with, goes into the record.
-/

namespace Reindex

variable {σ τ α : Type}

/-- An alias update that a cluster was asked for. -/
structure AliasUpdate where
  actions : List AliasAction
  worked : Bool
deriving DecidableEq, Repr

/-- The state of a cluster with the alias updates that it was asked for, oldest first. -/
structure Watched (σ : Type) where
  state : σ
  updates : List AliasUpdate := []

namespace Watched

/-- A call that does not go into the record. -/
def pass (x : EStateM Failure σ α) : EStateM Failure (Watched σ) α := fun w =>
  match x w.state with
  | .ok a s => .ok a { w with state := s }
  | .error e s => .error e { w with state := s }

/-- An alias update, into the record. -/
def update (actions : List AliasAction) (x : EStateM Failure σ α) : EStateM Failure (Watched σ) α :=
  fun w =>
  match x w.state with
  | .ok a s => .ok a { state := s, updates := w.updates ++ [⟨actions, true⟩] }
  | .error e s => .error e { state := s, updates := w.updates ++ [⟨actions, false⟩] }

theorem updates_pass (x : EStateM Failure σ α) (w : Watched σ) :
    (stateAfter (pass x w)).updates = w.updates := by
  unfold pass
  split <;> rfl

theorem updates_update (actions : List AliasAction) (x : EStateM Failure σ α) (w : Watched σ) :
    (stateAfter (update actions x w)).updates =
    w.updates ++ [⟨actions, worked (update actions x w)⟩] := by
  unfold update
  split <;> rfl

end Watched

/-- A cluster under watch. -/
def Cluster.watched (c : Cluster σ τ) : Cluster (Watched σ) τ where
  indexExists index := Watched.pass (c.indexExists index)
  createIndex index settings mappings := Watched.pass (c.createIndex index settings mappings)
  deleteIndex index := Watched.pass (c.deleteIndex index)
  refreshIndex index := Watched.pass (c.refreshIndex index)
  waitForHealth least timeout := Watched.pass (c.waitForHealth least timeout)
  aliases lookup := Watched.pass (c.aliases lookup)
  updateAliases actions := Watched.update actions (c.updateAliases actions)
  updateSettings index update := Watched.pass (c.updateSettings index update)
  beginBulk now index ops w :=
    let begun := c.beginBulk now index ops w.state
    (begun.1, { w with state := begun.2 })
  finishBulk ticket index ops w :=
    let ended := c.finishBulk ticket index ops w.state
    (ended.1, { w with state := ended.2 })
  getDocument index id := Watched.pass (c.getDocument index id)
  putDocument index id body := Watched.pass (c.putDocument index id body)

/-- **No call of a writer goes into the record.** -/
theorem Cluster.watched_steady (c : Cluster σ τ) (us : List AliasUpdate) :
    c.watched.Steady fun w => w.updates = us where
  beginBulk now index ops w hw := hw
  finishBulk ticket index ops w hw := hw
  serves hs hw := by
    cases hs with
    | refresh index => exact (Watched.updates_pass _ _).trans hw
    | settings index update => exact (Watched.updates_pass _ _).trans hw
    | read index id => exact (Watched.updates_pass _ _).trans hw
    | store index id body => exact (Watched.updates_pass _ _).trans hw

/-- Nor does any other call but an alias update. -/
theorem Watched.keeps_pass (us : List AliasUpdate) (x : EStateM Failure σ α) :
    Keeps (fun w : Watched σ => w.updates = us) (pass x) :=
  fun w hw => (updates_pass x w).trans hw

/-- **No call that a run starts with goes into the record.** -/
theorem Cluster.watched_prepares (c : Cluster σ τ) (us : List AliasUpdate) :
    c.watched.Prepares fun w => w.updates = us where
  indexExists _ := Watched.keeps_pass us _
  createIndex _ _ _ := Watched.keeps_pass us _
  deleteIndex _ := Watched.keeps_pass us _
  refreshIndex _ := Watched.keeps_pass us _
  waitForHealth _ _ := Watched.keeps_pass us _
  aliases _ := Watched.keeps_pass us _

end Reindex
