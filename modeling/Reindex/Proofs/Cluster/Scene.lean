import Reindex.Cluster.Memory
import Reindex.Proofs.Writer.Course

/-!
# What no call changes

The health of the cluster in memory, the documents that it cannot store and the time that a bulk
call takes are set from outside. No call of a run changes them.

Main statement: `MemoryCluster.steady_scene`.
-/

namespace Reindex

namespace MemoryCluster

/-- What is set from outside and no call changes. -/
def scene (c : MemoryCluster) : Health × List String × Bool × Nat :=
  (c.health, c.failingIds, c.transportRetryable, c.latency)

theorem scene_change (key : String) (failure : Failure) (f : MemoryIndex → MemoryIndex)
    (c : MemoryCluster) :
    (stateAfter (change key failure f c)).scene = c.scene := by
  unfold change
  split <;> rfl

theorem scene_apply (key : String) (op : Operation) (c : MemoryCluster) :
    (c.apply key op).2.scene = c.scene := by
  unfold apply
  split
  · rfl
  · split
    · rfl
    · split <;> rfl

theorem scene_applyAll (key : String) (ops : List Operation) (c : MemoryCluster) :
    (applyAll key ops c).2.scene = c.scene := by
  induction ops generalizing c with
  | nil => rfl
  | cons op ops ih => exact (ih _).trans (scene_apply key op c)

theorem scene_bulk (key : String) (ops : List Operation) (c : MemoryCluster) :
    (bulk key ops c).2.scene = c.scene := by
  unfold bulk
  dsimp only
  split
  · rfl
  · exact scene_applyAll key ops _

theorem scene_updateSettings (key : String) (update : SettingsUpdate) (c : MemoryCluster) :
    (stateAfter (updateSettings key update c)).scene = c.scene := by
  unfold updateSettings
  exact stateAfter_bind (P := fun v : MemoryCluster => v.scene = c.scene)
    (scene_change key _ _ c) fun _ _ h => h

/-- **A writer leaves the scene as it is.** -/
theorem steady_scene {s : Health × List String × Bool × Nat} : cluster.Steady (·.scene = s) where
  beginBulk _ _ _ _ h := h
  finishBulk _ key ops c h := (scene_bulk key ops c).trans h
  serves hs h := by
    cases hs with
    | refresh key => exact (scene_change key _ _ _).trans h
    | settings key update => exact (scene_updateSettings key update _).trans h
    | read key id => exact h
    | store key id body => exact (scene_change key _ _ _).trans h

end MemoryCluster

end Reindex
