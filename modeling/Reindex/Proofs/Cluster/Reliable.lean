import Reindex.Cluster.Memory
import Reindex.Proofs.Writer.Course

/-!
# Clusters that do not fail a writer

In the states in which it is reliable for an index, a cluster refuses no call of a writer of that
index but bulk calls, and it stays in these states. The cluster in memory is reliable for the
indices that it has.

Main statement: `MemoryCluster.reliable`.
-/

namespace Reindex

variable {σ τ : Type}

/-- No call of a writer of the index fails in a state with the property, bulk calls apart. -/
structure Cluster.Reliable (cluster : Cluster σ τ) (index : String) (P : σ → Prop) : Prop where
  steady : cluster.Steady P
  refresh : ∀ s, P s → worked (cluster.refreshIndex index s) = true
  settings : ∀ update s, P s → worked (cluster.updateSettings index update s) = true
  read : ∀ id s, P s → worked (cluster.getDocument index id s) = true
  store : ∀ id body s, P s → worked (cluster.putDocument index id body s) = true

namespace MemoryCluster

/-- The index is there. -/
def Present (index : String) (c : MemoryCluster) : Prop := c.indices.contains index = true

/-- An index that is there may be replaced. -/
theorem present_insert {index key : String} {c : MemoryCluster} (ix : MemoryIndex)
    (h : c.Present index) :
    Present index { c with indices := c.indices.insert key ix } := by
  unfold Present at h ⊢
  rw [Dict.contains_insert, h, Bool.or_true]

theorem present_change {index : String} (key : String) (failure : Failure)
    (f : MemoryIndex → MemoryIndex) {c : MemoryCluster} (h : c.Present index) :
    (stateAfter (change key failure f c)).Present index := by
  unfold change
  split
  · exact present_insert _ h
  · exact h

theorem worked_change {index : String} (failure : Failure) (f : MemoryIndex → MemoryIndex)
    {c : MemoryCluster} (h : c.Present index) : worked (change index failure f c) = true := by
  obtain ⟨ix, hi⟩ := Dict.contains_iff.1 h
  unfold change
  rw [hi]
  rfl

theorem updateSettings_of_present {index : String} (update : SettingsUpdate) {c : MemoryCluster}
    (h : c.Present index) :
    worked (updateSettings index update c) = true := by
  obtain ⟨⟨⟩, changed⟩ := eq_ok_of_worked (worked_change (.settingsOfMissing index) (fun ix =>
    { ix with
      replicas := update.replicas.getD ix.replicas
      refreshInterval := update.refreshInterval.getD ix.refreshInterval }) h)
  unfold updateSettings
  rw [bind_of_ok changed]
  rfl

theorem keeps_updateSettings (index key : String) (update : SettingsUpdate) :
    Keeps (Present index) (updateSettings key update) :=
  .bind (fun _ h => present_change _ _ _ h) fun _ _ h => h

theorem present_apply {index : String} (key : String) (op : Operation) {c : MemoryCluster}
    (h : c.Present index) :
    (c.apply key op).2.Present index := by
  unfold apply
  split
  · exact h
  · split
    · exact h
    · split
      · exact h
      · exact present_insert _ h

theorem present_applyAll {index : String} (key : String) (ops : List Operation) {c : MemoryCluster}
    (h : c.Present index) : (applyAll key ops c).2.Present index := by
  induction ops generalizing c with
  | nil => exact h
  | cons op ops ih => exact ih (present_apply key op h)

theorem present_bulk {index : String} (key : String) (ops : List Operation) {c : MemoryCluster}
    (h : c.Present index) :
    (bulk key ops c).2.Present index := by
  unfold bulk
  dsimp only
  split
  · exact h
  · exact present_applyAll key ops h

/-- **The cluster in memory is reliable for the indices that it has.** -/
theorem reliable (index : String) : MemoryCluster.cluster.Reliable index (Present index) where
  steady :=
    { beginBulk := fun _ _ _ _ h => h
      finishBulk := fun _ key ops _ h => present_bulk key ops h
      serves := fun hs h => by
        cases hs with
        | refresh key => exact present_change _ _ _ h
        | settings key update => exact keeps_updateSettings index key update _ h
        | read key id => exact h
        | store key id body => exact present_change _ _ _ h }
  refresh _ h := worked_change _ _ h
  settings update _ h := updateSettings_of_present update h
  read _ _ _ := rfl
  store _ _ _ h := worked_change _ _ h

end MemoryCluster

end Reindex
