import Reindex.Proofs.Cluster.Reliable
import Reindex.Proofs.Lifecycle.Start

/-!
# Starting on the cluster in memory

A run that starts on the cluster in memory leaves it as it was, or it makes its index afresh and
leaves all others as they were. The index of the run is there in either case.

Main statement: `Lifecycle.startedInMemory_of_ok`.
-/

namespace Reindex

/-- An index right after it was made: it was refreshed once. -/
def MemoryIndex.fresh (settings mappings : Json) : MemoryIndex :=
  { settings, mappings, replicas := replicasOf settings,
    refreshInterval := refreshIntervalOf settings, refreshCount := 1 }

namespace MemoryCluster

theorem eq_of_indexExists {index : String} {c v : MemoryCluster} {found : Bool}
    (h : cluster.indexExists index c = .ok found v) : v = c ∧ c.indices.contains index = found := by
  have looked : (EStateM.Result.ok (c.indices.contains index) c : EStateM.Result Failure _ _) =
    .ok found v := h
  cases looked
  exact ⟨rfl, rfl⟩

theorem indices_of_createIndex {index : String} {settings mappings : Json} {c v : MemoryCluster}
    (h : createIndex index settings mappings c = .ok () v) :
    v = { c with indices := v.indices } ∧ v.indices = c.indices.insert index
      { settings, mappings, replicas := replicasOf settings,
        refreshInterval := refreshIntervalOf settings } := by
  unfold createIndex at h
  split at h
  · cases h
  · cases h
    exact ⟨rfl, rfl⟩

theorem indices_of_deleteIndex {index : String} {c v : MemoryCluster}
    (h : deleteIndex index c = .ok () v) :
    v = { c with indices := v.indices } ∧ v.indices = c.indices.erase index := by
  unfold deleteIndex at h
  split at h
  · cases h
    exact ⟨rfl, rfl⟩
  · cases h

theorem indices_of_change {index : String} {failure : Failure} {f : MemoryIndex → MemoryIndex}
    {c v : MemoryCluster} (h : change index failure f c = .ok () v) :
    v = { c with indices := v.indices } ∧
      ∃ ix, c.indices.get? index = some ix ∧ v.indices = c.indices.insert index (f ix) := by
  unfold change at h
  split at h
  · rename_i ix hi
    cases h
    exact ⟨rfl, ix, hi, rfl⟩
  · cases h

/-- An index is made and refreshed: it is fresh, and the others are what they were. -/
theorem get?_of_made {index : String} {settings mappings : Json} {c u v : MemoryCluster}
    (create : createIndex index settings mappings c = .ok () u)
    (refresh : refreshIndex index u = .ok () v) :
    v = { c with indices := v.indices } ∧
      ∀ key, v.indices.get? key =
        if index = key then some (.fresh settings mappings) else c.indices.get? key := by
  obtain ⟨created, indices⟩ := indices_of_createIndex create
  obtain ⟨refreshed, ix, there, indices'⟩ := indices_of_change refresh
  refine ⟨by rw [refreshed, created], fun key => ?_⟩
  rw [indices, Dict.get?_insert, if_pos rfl] at there
  cases there
  rw [indices', indices, Dict.get?_insert, Dict.get?_insert]
  split <;> rfl

end MemoryCluster

namespace Lifecycle

variable {policy : NamingPolicy} {now : Instant} {tuning : Tuning} {payload : IndexPayload}
    {options : LifecycleOptions} {c v : MemoryCluster} {l : Lifecycle}

/-- What a start on the cluster in memory comes to. -/
structure StartedInMemory (policy : NamingPolicy) (now : Instant) (tuning : Tuning)
    (payload : IndexPayload) (options : LifecycleOptions) (c : MemoryCluster) (l : Lifecycle)
    (v : MemoryCluster) : Prop where
  identity : policy.resolve MemoryCluster.cluster now c = .ok l.identity c
  well : c.health.worse .yellow = false
  left : l.created = false →
    v = c ∧ c.Present l.identity.index ∧
      (options.updateMode = true ∨ options.deleteRequested = false)
  made : l.created = true → options.updateMode = false ∧
    (c.Present l.identity.index → options.deleteRequested = true) ∧
    v = { c with indices := v.indices } ∧ ∀ key,
      v.indices.get? key = if l.identity.index = key then
        some (.fresh (managedSettings payload.settings tuning) payload.mappings)
      else c.indices.get? key
  tuning : l.tuning = tuning
  options : l.options = options
  state : l.state = .ensured

theorem eq_of_resolve {t : MemoryCluster} {identity : Identity}
    (h : policy.resolve MemoryCluster.cluster now c = .ok identity t) : t = c := by
  have kept : Keeps (· = c) (policy.resolve MemoryCluster.cluster now) := by
    unfold NamingPolicy.resolve
    split
    · exact .ofExcept _
    · exact Keeps.bind (fun _ h => h) fun table => .ofExcept _
  exact kept.of_ok rfl h

theorem eq_of_awaitHealth (h : awaitHealth MemoryCluster.cluster options c = .ok () v) :
    v = c ∧ c.health.worse .yellow = false := by
  unfold awaitHealth at h
  rw [bind_of_ok (show call (MemoryCluster.cluster.waitForHealth .yellow options.healthTimeout) c =
    .ok ⟨c.health.worse .yellow, c.health⟩ c from rfl)] at h
  cases hw : c.health.worse .yellow with
  | true =>
    rw [hw] at h
    cases h
  | false =>
    rw [hw] at h
    cases h
    exact ⟨rfl, rfl⟩

/-- **A start on the cluster in memory** that worked. -/
theorem startedInMemory_of_ok
    (h : start MemoryCluster.cluster policy now tuning payload options c = .ok l v) :
    StartedInMemory policy now tuning payload options c l v := by
  obtain ⟨⟨t, u, resolved, ensured, awaited⟩, ht, ho, hs⟩ := started_of_ok h
  obtain rfl := eq_of_resolve resolved
  obtain ⟨rfl, well⟩ := eq_of_awaitHealth awaited
  generalize hb : l.created = created at ensured
  cases ensured with
  | found there left =>
    obtain ⟨rfl, present⟩ := MemoryCluster.eq_of_indexExists there
    refine ⟨resolved, well, fun _ => ⟨rfl, present, left⟩, fun made => ?_, ht, ho, hs⟩
    rw [hb] at made
    cases made
  | made absent mode create refresh =>
    obtain ⟨rfl, missing⟩ := MemoryCluster.eq_of_indexExists absent
    obtain ⟨same, indices⟩ := MemoryCluster.get?_of_made create refresh
    refine ⟨resolved, by rw [same] at well; exact well, fun left => ?_, fun _ => ?_, ht, ho, hs⟩
    · rw [hb] at left
      cases left
    · refine ⟨mode, fun present => ?_, same, indices⟩
      have there : _ = true := present
      rw [missing] at there
      cases there
  | remade there mode asked delete create refresh =>
    obtain ⟨rfl, present⟩ := MemoryCluster.eq_of_indexExists there
    obtain ⟨deleted, others⟩ := MemoryCluster.indices_of_deleteIndex delete
    obtain ⟨same, indices⟩ := MemoryCluster.get?_of_made create refresh
    rw [deleted] at same
    refine ⟨resolved, by rw [same] at well; exact well, fun left => ?_, fun _ => ?_, ht, ho, hs⟩
    · rw [hb] at left
      cases left
    · refine ⟨mode, fun _ => asked, same, fun key => ?_⟩
      rw [indices, others, Dict.get?_erase]
      split <;> rfl

/-- A start changes nothing but the indices. -/
theorem indices_of_start (h : StartedInMemory policy now tuning payload options c l v) :
    v = { c with indices := v.indices } := by
  cases created : l.created with
  | false => rw [(h.left created).1]
  | true => exact (h.made created).2.2.1

/-- **The index of a run that started is there.** -/
theorem present_of_start
    (h : start MemoryCluster.cluster policy now tuning payload options c = .ok l v) :
    v.Present l.identity.index := by
  have started := startedInMemory_of_ok h
  cases hb : l.created with
  | false =>
    obtain ⟨rfl, present, -⟩ := started.left hb
    exact present
  | true =>
    obtain ⟨-, -, -, indices⟩ := started.made hb
    exact Dict.contains_iff.2 ⟨_, by rw [indices, if_pos rfl]⟩

end Lifecycle

end Reindex
