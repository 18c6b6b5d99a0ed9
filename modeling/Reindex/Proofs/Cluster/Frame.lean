import Reindex.Calls
import Reindex.Cluster.Memory
import Reindex.Proofs.Cluster.Aliases

/-!
# What a call leaves as it is

A view shows a part of an index. A call that changes another part leaves what the view shows of
every index as it is; bulk calls change documents and nothing else of an index, a refresh its count,
an update of the settings two of its fields, and an alias update its aliases.

Main statements: `MemoryCluster.seen_bulk`, `MemoryCluster.seen_change` and
`MemoryCluster.seen_updateAliases`, one for each kind of call, for views that do not show what it
changes.
-/

namespace Reindex

/-- An operation changes the documents of its index and nothing else. -/
theorem MemoryIndex.apply_docs (ix : MemoryIndex) (op : Operation) :
    ∃ docs, (ix.apply op).2 = { ix with docs } := by
  unfold MemoryIndex.apply
  split
  · exact ⟨_, rfl⟩
  · split
    · exact ⟨ix.docs, rfl⟩
    · split
      · exact ⟨ix.docs, rfl⟩
      · exact ⟨_, rfl⟩
  · exact ⟨_, rfl⟩
  · exact ⟨ix.docs, rfl⟩

/-- What an update makes of the settings in effect. -/
def SettingsUpdate.apply (u : SettingsUpdate) (settings : Nat × String) : Nat × String :=
  (u.replicas.getD settings.1, u.refreshInterval.getD settings.2)

namespace MemoryCluster

variable {β : Type}

/-- What a view shows of an index, if it is there. -/
def seen (view : MemoryIndex → β) (index : String) (c : MemoryCluster) : Option β :=
  (c.indices.get? index).map view

theorem seen_insert (view : MemoryIndex → β) (c : MemoryCluster) (key : String) (ix : MemoryIndex)
    (index : String) :
    seen view index { c with indices := c.indices.insert key ix } =
      if key = index then some (view ix) else seen view index c := by
  unfold seen
  rw [Dict.get?_insert]
  split <;> rfl

/-- An index is replaced by one that looks the same. -/
theorem seen_replace {view : MemoryIndex → β} {c : MemoryCluster} {key : String}
    {ix ix' : MemoryIndex} (there : c.indices.get? key = some ix) (same : view ix' = view ix)
    (index : String) :
    seen view index { c with indices := c.indices.insert key ix' } = seen view index c := by
  rw [seen_insert]
  split
  · rename_i hk
    subst hk
    unfold seen
    rw [there, Option.map_some, same]
  · rfl

theorem seen_change {view : MemoryIndex → β} {f : MemoryIndex → MemoryIndex}
    (same : ∀ ix, view (f ix) = view ix) (key : String) (failure : Failure) (index : String)
    (c : MemoryCluster) :
    seen view index (stateAfter (change key failure f c)) = seen view index c := by
  unfold change
  split
  · rename_i ix there
    exact seen_replace there (same ix) index
  · rfl

/-! ## Bulk calls -/

section

variable {view : MemoryIndex → β} (blind : ∀ ix docs, view { ix with docs } = view ix)

include blind

theorem seen_apply (key : String) (op : Operation) (index : String) (c : MemoryCluster) :
    seen view index (c.apply key op).2 = seen view index c := by
  unfold apply
  split
  · rfl
  · split
    · rfl
    · rename_i ix there
      split
      · rfl
      · obtain ⟨docs, applied⟩ := ix.apply_docs op
        refine seen_replace there ?_ index
        rw [applied]
        exact blind ix docs

theorem seen_applyAll (key : String) (ops : List Operation) (index : String) (c : MemoryCluster) :
    seen view index (applyAll key ops c).2 = seen view index c := by
  induction ops generalizing c with
  | nil => rfl
  | cons op ops ih => exact (ih _).trans (seen_apply blind key op index c)

/-- A document that is stored past the bulk calls is not seen there either. -/
theorem seen_putDocument (key id body : String) (index : String) (c : MemoryCluster) :
    seen view index (stateAfter (putDocument key id body c)) = seen view index c := by
  unfold putDocument
  exact seen_change (fun ix => blind ix _) key _ index c

/-- **A bulk call** is not seen where documents are not, whatever became of it. -/
theorem seen_bulk (key : String) (ops : List Operation) (index : String) (c : MemoryCluster) :
    seen view index (bulk key ops c).2 = seen view index c := by
  unfold bulk
  dsimp only
  split
  · rfl
  · exact seen_applyAll blind key ops index _

end

/-- A refresh is seen in the count of refreshes only. -/
theorem seen_refreshIndex {view : MemoryIndex → β}
    (blind : ∀ ix refreshCount, view { ix with refreshCount } = view ix)
    (key index : String) (c : MemoryCluster) :
    seen view index (stateAfter (refreshIndex key c)) = seen view index c := by
  unfold refreshIndex
  exact seen_change (fun ix => blind ix _) key _ index c

/-! ## Alias updates -/

theorem seen_withAliases {view : MemoryIndex → β}
    (blind : ∀ ix aliases, view { ix with aliases } = view ix) (indices : Dict MemoryIndex)
    (key : String) (f : Aliases → Aliases) (index : String) :
    ((withAliases indices key f).get? index).map view = (indices.get? index).map view := by
  rw [get?_withAliases]
  split
  · rename_i hk
    subst hk
    cases indices.get? key with
    | none => rfl
    | some ix => exact congrArg some (blind ix _)
  · rfl

/-- **An alias update** is not seen where aliases are not. -/
theorem seen_updateAliases {view : MemoryIndex → β}
    (blind : ∀ ix aliases, view { ix with aliases } = view ix) (actions : List AliasAction)
    (index : String) (c : MemoryCluster) :
    seen view index (stateAfter (updateAliases actions c)) = seen view index c := by
  have all : ∀ indices : Dict MemoryIndex,
      ((actions.foldl applyAction indices).get? index).map view = (indices.get? index).map
        view := by
    induction actions with
    | nil => exact fun _ => rfl
    | cons action actions ih =>
      intro indices
      rw [List.foldl_cons, ih]
      cases action with
      | add key aliasName filter => exact seen_withAliases blind indices key _ index
      | remove key aliasName => exact seen_withAliases blind indices key _ index
  unfold updateAliases
  split
  · rfl
  · exact all c.indices

/-! ## Settings -/

/-- The number of replicas and the refresh interval that are in effect. -/
def effective (ix : MemoryIndex) : Nat × String := (ix.replicas, ix.refreshInterval)

/-- **An update of the settings** of an index that is there is seen in that index, and it is
recorded. -/
theorem updateSettings_of_seen {index : String} {settings : Nat × String} {c : MemoryCluster}
    (there : seen effective index c = some settings) (update : SettingsUpdate) :
    ∃ v, updateSettings index update c = .ok () v ∧
      seen effective index v = some (update.apply settings) ∧
      v.settingsHistory = c.settingsHistory ++ [(index, update)] := by
  obtain ⟨ix, hi, rfl⟩ := Option.map_eq_some_iff.1 there
  let f : MemoryIndex → MemoryIndex := fun ix =>
    { ix with
      replicas := update.replicas.getD ix.replicas
      refreshInterval := update.refreshInterval.getD ix.refreshInterval }
  have changed : change index (.settingsOfMissing index) f c =
      .ok () { c with indices := c.indices.insert index (f ix) } := by
    unfold change
    rw [hi]
  refine ⟨_, bind_of_ok changed _, ?_, rfl⟩
  exact (seen_insert effective c index (f ix) index).trans (if_pos rfl)

/-- An update of the settings is not seen where settings are not. -/
theorem seen_updateSettings {view : MemoryIndex → β}
    (blind : ∀ ix replicas refreshInterval, view { ix with replicas, refreshInterval } = view ix)
    (key : String) (update : SettingsUpdate) (index : String) (c : MemoryCluster) :
    seen view index (stateAfter (updateSettings key update c)) = seen view index c := by
  unfold updateSettings
  exact stateAfter_bind (P := fun v => seen view index v = seen view index c)
    (seen_change (fun ix => blind ix _ _) key _ index c) fun _ _ h => h

/-! ### The record of the updates -/

theorem settingsHistory_change (key : String) (failure : Failure) (f : MemoryIndex → MemoryIndex)
    (c : MemoryCluster) :
    (stateAfter (change key failure f c)).settingsHistory = c.settingsHistory := by
  unfold change
  split <;> rfl

theorem settingsHistory_apply (key : String) (op : Operation) (c : MemoryCluster) :
    (c.apply key op).2.settingsHistory = c.settingsHistory := by
  unfold apply
  split
  · rfl
  · split
    · rfl
    · split <;> rfl

theorem settingsHistory_applyAll (key : String) (ops : List Operation) (c : MemoryCluster) :
    (applyAll key ops c).2.settingsHistory = c.settingsHistory := by
  induction ops generalizing c with
  | nil => rfl
  | cons op ops ih => exact (ih _).trans (settingsHistory_apply key op c)

theorem settingsHistory_bulk (key : String) (ops : List Operation) (c : MemoryCluster) :
    (bulk key ops c).2.settingsHistory = c.settingsHistory := by
  unfold bulk
  dsimp only
  split
  · rfl
  · exact settingsHistory_applyAll key ops _

theorem settingsHistory_updateAliases (actions : List AliasAction) (c : MemoryCluster) :
    (stateAfter (updateAliases actions c)).settingsHistory = c.settingsHistory := by
  unfold updateAliases
  split <;> rfl

end MemoryCluster

end Reindex
