import Reindex.Cluster.Memory

/-!
# The alias tables of the cluster in memory

Which indices carry an alias, and what several actions on one index do to its table. An action on
one index leaves everything else of the cluster alone.

Main statements: `MemoryCluster.keys_aliasTable`, `MemoryCluster.foldl_remove` and
`MemoryCluster.foldl_add`.
-/

namespace Reindex.MemoryCluster

/-- The aliases of an index; none if there is no such index. -/
def aliasesOf (c : MemoryCluster) (index : String) : Aliases :=
  ((c.indices.get? index).map (·.aliases)).getD ∅

/-- The indices that carry an alias, in order. -/
def carriers (c : MemoryCluster) (aliasName : String) : List String :=
  (c.indices.entries.filter fun e => e.2.aliases.contains aliasName).map (·.1)

theorem mem_carriers {c : MemoryCluster} {aliasName index : String} :
    index ∈ c.carriers aliasName ↔ (c.aliasesOf index).contains aliasName = true := by
  unfold carriers aliasesOf
  rw [List.mem_map]
  constructor
  · rintro ⟨⟨i, ix⟩, he, rfl⟩
    obtain ⟨he, ha⟩ := List.mem_filter.1 he
    rw [(Dict.mem_entries_iff c.indices i ix).1 he]
    exact ha
  · intro h
    cases hi : c.indices.get? index with
    | none =>
      rw [hi] at h
      cases h
    | some ix =>
      rw [hi] at h
      exact ⟨(index, ix), List.mem_filter.2 ⟨(Dict.mem_entries_iff c.indices index ix).2 hi,
        h⟩, rfl⟩

theorem nodup_carriers (c : MemoryCluster) (aliasName : String) : (c.carriers aliasName).Nodup :=
  (List.Sublist.map _ List.filter_sublist).nodup c.indices.nodup_keys

theorem carriers_eq_singleton {c : MemoryCluster} {aliasName index : String}
    (h : ∀ key, (c.aliasesOf key).contains aliasName = true ↔ key = index) :
    c.carriers aliasName = [index] := by
  refine List.perm_singleton.1 ?_
  refine (List.perm_ext_iff_of_nodup (c.nodup_carriers aliasName)
    (List.pairwise_singleton _ index)).2 fun key => ?_
  rw [mem_carriers, h, List.mem_singleton]

/-- An alias is on several indices, or on one at most. -/
theorem carriers_of_few {c : MemoryCluster} {aliasName : String}
    (few : ¬ 2 ≤ (c.carriers aliasName).length) :
    ∃ old : Option String, c.carriers aliasName = old.toList := by
  rcases hc : c.carriers aliasName with _ | ⟨only, _ | ⟨next, rest⟩⟩
  · exact ⟨none, rfl⟩
  · exact ⟨some only, rfl⟩
  · rw [hc] at few
    exact absurd (Nat.le_add_left 2 rest.length) few

theorem get?_of_mem_carriers {c : MemoryCluster} {aliasName index : String}
    (h : index ∈ c.carriers aliasName) :
    ∃ ix, c.indices.get? index = some ix ∧ ix.aliases.contains aliasName = true := by
  have ha := mem_carriers.1 h
  unfold aliasesOf at ha
  cases hi : c.indices.get? index with
  | none =>
    rw [hi] at ha
    cases ha
  | some ix =>
    rw [hi] at ha
    exact ⟨ix, rfl, ha⟩

/-! ## Look-ups -/

/-- A table cut down to one alias is empty where the alias is not in it. -/
theorem isEmpty_only (aliases : Aliases) (aliasName : String) :
    (aliases.filterMap fun a filter => if a = aliasName then some filter else none).isEmpty =
      !aliases.contains aliasName := by
  rw [Bool.eq_iff_iff, Dict.isEmpty_iff, Bool.not_eq_true', Dict.contains_eq]
  constructor
  · intro h
    have := congrArg (fun d => Dict.get? d aliasName) h
    simp only [Dict.get?_filterMap, Dict.get?_empty, if_true] at this
    cases ha : aliases.get? aliasName with
    | none => rfl
    | some filter =>
      rw [ha] at this
      cases this
  · intro h
    refine Dict.ext_get? fun key => ?_
    rw [Dict.get?_filterMap, Dict.get?_empty]
    by_cases hk : key = aliasName
    · subst hk
      rw [Option.isSome_eq_false_iff, Option.isNone_iff_eq_none] at h
      rw [h]
      rfl
    · cases aliases.get? key <;> simp [hk]

/-- A look-up of an alias shows the indices that carry it. -/
theorem keys_aliasTable (c : MemoryCluster) (aliasName : String) :
    (c.aliasTable (.ofAlias aliasName)).keys = c.carriers aliasName := by
  unfold aliasTable carriers
  rw [Dict.keys_filterMap]
  refine congrArg _ (List.filter_congr fun e _ => ?_)
  have empty := isEmpty_only e.2.aliases aliasName
  cases ha : e.2.aliases.contains aliasName <;> simp [empty, ha]

/-- Which indices carry an alias is a matter of the alias tables alone. -/
theorem carriers_congr {c d : MemoryCluster} (same : ∀ index, c.aliasesOf index = d.aliasesOf index)
    (aliasName : String) :
    c.carriers aliasName = d.carriers aliasName := by
  have shows (c : MemoryCluster) (index : String) :
      (c.aliasTable (.ofAlias aliasName)).get? index =
        let shown := (c.aliasesOf index).filterMap fun a filter => if a = aliasName then some filter
          else none
        if shown.isEmpty then none else some shown := by
    unfold aliasTable aliasesOf
    rw [Dict.get?_filterMap]
    cases c.indices.get? index <;> rfl
  rw [← keys_aliasTable, ← keys_aliasTable]
  refine congrArg Dict.keys (Dict.ext_get? fun index => ?_)
  rw [shows c, shows d, same]

/-- A look-up of an index shows its aliases. -/
theorem get?_aliasTable (c : MemoryCluster) (index : String) :
    ((c.aliasTable (.ofIndex index)).get? index).getD ∅ = c.aliasesOf index := by
  unfold aliasTable aliasesOf
  rw [Dict.get?_filterMap]
  cases c.indices.get? index with
  | none => rfl
  | some ix =>
    simp only [Option.bind_some, if_true, Option.map_some, Option.getD_some]
    split
    · rename_i h
      rw [Dict.isEmpty_iff.1 h]
      rfl
    · rfl

/-! ## Actions -/

theorem get?_withAliases (indices : Dict MemoryIndex) (index : String) (f : Aliases → Aliases)
    (key : String) :
    (withAliases indices index f).get? key =
      if index = key then (indices.get? index).map fun ix => { ix with aliases := f ix.aliases }
      else indices.get? key := by
  unfold withAliases
  cases hi : indices.get? index with
  | none =>
    by_cases hk : index = key
    · rw [if_pos hk, ← hk]
      exact hi
    · rw [if_neg hk]
  | some ix =>
    dsimp only
    rw [Dict.get?_insert]
    rfl

theorem withAliases_id (indices : Dict MemoryIndex) (index : String) :
    withAliases indices index id = indices := by
  refine Dict.ext_get? fun key => ?_
  rw [get?_withAliases]
  split
  · rename_i hk
    rw [← hk]
    cases indices.get? index <;> rfl
  · rfl

theorem withAliases_withAliases (indices : Dict MemoryIndex) (index : String)
    (f g : Aliases → Aliases) :
    withAliases (withAliases indices index f) index g = withAliases indices index (g ∘ f) := by
  refine Dict.ext_get? fun key => ?_
  simp only [get?_withAliases, if_true]
  split
  · cases indices.get? index <;> rfl
  · rfl

/-- Several aliases removed from one index. -/
theorem foldl_remove (index : String) (names : List String) (indices : Dict MemoryIndex) :
    (names.map fun name => AliasAction.remove index name).foldl applyAction indices =
      withAliases indices index fun aliases => names.foldl Dict.erase aliases := by
  induction names generalizing indices with
  | nil => exact (withAliases_id indices index).symm
  | cons name names ih =>
    rw [List.map_cons, List.foldl_cons, ih]
    exact withAliases_withAliases indices index (·.erase name) fun aliases =>
      names.foldl Dict.erase aliases

/-- Several aliases added to one index. -/
theorem foldl_add (index : String) (added : Aliases) (indices : Dict MemoryIndex) :
    (added.entries.map fun (name, filter) => AliasAction.add index name filter).foldl applyAction
      indices =
      withAliases indices index fun aliases => aliases.mergeInto added := by
  unfold Dict.mergeInto
  induction added.entries generalizing indices with
  | nil => exact (withAliases_id indices index).symm
  | cons e es ih =>
    rw [List.map_cons, List.foldl_cons, ih]
    exact withAliases_withAliases indices index (·.insert e.1 e.2) fun aliases =>
      es.foldl (fun m e => m.insert e.1 e.2) aliases

/-- An index without any of the aliases that it has. -/
theorem foldl_erase_keys (aliases : Aliases) : aliases.keys.foldl Dict.erase aliases = ∅ := by
  refine Dict.ext_get? fun key => ?_
  rw [Dict.get?_foldl_erase, Dict.get?_empty]
  split
  · rfl
  · rename_i hk
    rw [Dict.mem_keys, Dict.contains_eq, Bool.not_eq_true, Option.isSome_eq_false_iff,
      Option.isNone_iff_eq_none] at hk
    exact hk

end Reindex.MemoryCluster
