import Reindex.Calls
import Reindex.Lifecycle
import Reindex.Proofs.Cluster.Frame

/-!
# Alias updates are all or nothing

An update of the aliases in memory is refused as a whole if one of its actions is about an index
that is not there. Otherwise its actions are carried out one after another, and nothing changes but
the aliases of the indices they are about and the log of updates. The order of the actions matters
in general; of a plan that moves aliases from one index to another the additions may as well come
first.

`AliasAction.on` says what one action does to the aliases of all indices. Main statements:
`shownAliases_applyAction` for one action, `shownAliases_foldl` for a list of them, and
`MemoryCluster.updateAliases_allOrNothing`.
-/

namespace Reindex

/-! ## Actions -/

namespace AliasAction

/-- What one action does to the aliases of all indices, given as the filter of each alias on each
index: it sets or removes one alias of one index. -/
def on (filters : String → String → Option (Option Json)) :
    AliasAction → String → String → Option (Option Json)
  | .add index aliasName filter => fun i a =>
    if index = i ∧ aliasName = a then some filter else filters i a
  | .remove index aliasName => fun i a => if index = i ∧ aliasName = a then none else filters i a

def isAdd : AliasAction → Bool
  | .add _ _ _ => true
  | .remove _ _ => false

/-- The same actions with the additions before the removals. -/
def addsFirst (actions : List AliasAction) : List AliasAction :=
  actions.filter isAdd ++ actions.filter fun action => !action.isAdd

theorem addsFirst_perm (actions : List AliasAction) : (addsFirst actions).Perm actions :=
  List.filter_append_perm isAdd actions

theorem addsFirst_append {removals additions : List AliasAction}
    (removing : ∀ action ∈ removals, action.isAdd = false)
    (adding : ∀ action ∈ additions, action.isAdd = true) :
    addsFirst (removals ++ additions) = additions ++ removals := by
  have none : removals.filter isAdd = [] := List.filter_eq_nil_iff.2 fun action h => by
    simp [removing action h]
  have all : (removals.filter fun action => !action.isAdd) = removals :=
    List.filter_eq_self.2 fun action h => by simp [removing action h]
  have rest : (additions.filter fun action => !action.isAdd) = [] :=
    List.filter_eq_nil_iff.2 fun action h => by simp [adding action h]
  unfold addsFirst
  rw [List.filter_append, List.filter_append, none, all, rest, List.filter_eq_self.2 adding,
    List.nil_append, List.append_nil]

/-- A plan with its additions first. -/
theorem addsFirst_actions (p : SwitchPlan) :
    addsFirst p.actions = (p.aliases.entries.map fun (name, filter) =>
      AliasAction.add p.new name filter) ++
      match p.old with
      | some old => p.aliases.keys.map fun name => AliasAction.remove old name
      | none => [] := by
  unfold SwitchPlan.actions
  refine addsFirst_append (fun action h => ?_) fun action h => ?_
  · cases given : p.old with
    | none =>
      rw [given] at h
      cases h
    | some old =>
      rw [given] at h
      obtain ⟨name, -, rfl⟩ := List.mem_map.1 h
      rfl
  · obtain ⟨e, -, rfl⟩ := List.mem_map.1 h
    rfl

end AliasAction

namespace MemoryCluster

/-! ## Aliases of all indices -/

/-- The filter of each alias on each index; none where the alias is not on the index. -/
def shownAliases (indices : Dict MemoryIndex) (index aliasName : String) : Option (Option Json) :=
  (indices.get? index).bind fun ix => ix.aliases.get? aliasName

theorem shownAliases_of_found {indices : Dict MemoryIndex} {index : String} {ix : MemoryIndex}
    (found : indices.get? index = some ix) (a : String) :
    shownAliases indices index a = ix.aliases.get? a := by
  unfold shownAliases
  rw [found, Option.bind_some]

theorem shownAliases_withAliases {indices : Dict MemoryIndex} {index : String} {ix : MemoryIndex}
    (found : indices.get? index = some ix) (f : Aliases → Aliases) (i a : String) :
    shownAliases (withAliases indices index f) i a =
      if index = i then (f ix.aliases).get? a else shownAliases indices i a := by
  unfold shownAliases
  rw [get?_withAliases]
  by_cases same : index = i
  · rw [if_pos same, if_pos same, found, Option.map_some, Option.bind_some]
  · rw [if_neg same, if_neg same]

/-- **One action** on an index that is there does what it says, to one alias of that index. -/
theorem shownAliases_applyAction {indices : Dict MemoryIndex} {action : AliasAction}
    (there : indices.contains action.index = true) :
    shownAliases (applyAction indices action) = action.on (shownAliases indices) := by
  funext i a
  obtain ⟨ix, found⟩ := Dict.contains_iff.1 there
  cases action with
  | add index aliasName filter =>
    have found : indices.get? index = some ix := found
    refine (shownAliases_withAliases found _ i a).trans ?_
    by_cases same : index = i
    · subst same
      simp [AliasAction.on, shownAliases_of_found found, Dict.get?_insert]
    · simp [AliasAction.on, same]
  | remove index aliasName =>
    have found : indices.get? index = some ix := found
    refine (shownAliases_withAliases found _ i a).trans ?_
    by_cases same : index = i
    · subst same
      simp [AliasAction.on, shownAliases_of_found found, Dict.get?_erase]
    · simp [AliasAction.on, same]

/-- No action makes an index or takes one away. -/
theorem contains_applyAction (indices : Dict MemoryIndex) (action : AliasAction) (index : String) :
    (applyAction indices action).contains index = indices.contains index := by
  have same (key : String) (f : Aliases → Aliases) :
      (withAliases indices key f).contains index = indices.contains index := by
    have seen : ((withAliases indices key f).get? index).map (fun _ => ()) =
      (indices.get? index).map fun _ => () :=
      seen_withAliases (fun _ _ => rfl) indices key f index
    simpa [Dict.contains_eq] using congrArg Option.isSome seen
  cases action with
  | add key aliasName filter => exact same key _
  | remove key aliasName => exact same key _

/-- **Actions one after another.** -/
theorem shownAliases_foldl {actions : List AliasAction} {indices : Dict MemoryIndex}
    (there : ∀ action ∈ actions, indices.contains action.index = true) :
    shownAliases (actions.foldl applyAction indices) = actions.foldl AliasAction.on
      (shownAliases indices) := by
  induction actions generalizing indices with
  | nil => rfl
  | cons action actions ih =>
    obtain ⟨first, others⟩ := List.forall_mem_cons.1 there
    rw [List.foldl_cons, List.foldl_cons, ← shownAliases_applyAction first]
    exact ih fun next h => (contains_applyAction indices action next.index).trans (others next h)

/-! ## Updates -/

theorem updateAliases_of_forall {c : MemoryCluster} {actions : List AliasAction}
    (there : ∀ action ∈ actions, c.indices.contains action.index = true) :
    updateAliases actions c =
      .ok () { c with indices := actions.foldl applyAction c.indices, aliasUpdates := c.aliasUpdates ++ [actions] } := by
  have none : actions.find? (fun action => !c.indices.contains action.index) = none :=
    List.find?_eq_none.2 fun action h => by simp [there action h]
  unfold updateAliases
  rw [none]

theorem updateAliases_of_exists {c : MemoryCluster} {actions : List AliasAction}
    (missing : ∃ action ∈ actions, c.indices.contains action.index = false) :
    ∃ action ∈ actions, c.indices.contains action.index = false ∧
      updateAliases actions c = .error (.aliasActionOnMissing action.index) c := by
  unfold updateAliases
  cases first : actions.find? fun action => !c.indices.contains action.index with
  | some action =>
    exact ⟨action, List.mem_of_find?_eq_some first, by simpa using List.find?_some first, rfl⟩
  | none =>
    obtain ⟨action, given, gone⟩ := missing
    have found := List.find?_eq_none.1 first action given
    rw [gone] at found
    exact absurd rfl found

/-- What an update that was accepted leaves of a cluster. -/
structure AliasesUpdated (actions : List AliasAction) (c v : MemoryCluster) : Prop where
  /-- The aliases are what the actions make of them, one after another. -/
  aliases : shownAliases v.indices = actions.foldl AliasAction.on (shownAliases c.indices)
  /-- Nothing of an index changes but its aliases, and no index comes or goes. -/
  contents : ∀ i, (v.indices.get? i).map ({ · with aliases := ∅ }) = (c.indices.get? i).map ({ · with aliases := ∅ })
  /-- One update is told, and nothing else of the cluster changes. -/
  told : v = { c with indices := v.indices, aliasUpdates := c.aliasUpdates ++ [actions] }

theorem aliasesUpdated {c : MemoryCluster} {actions : List AliasAction}
    (there : ∀ action ∈ actions, c.indices.contains action.index = true) :
    ∃ v, updateAliases actions c = .ok () v ∧ AliasesUpdated actions c v := by
  have update := updateAliases_of_forall there
  refine ⟨_, update, shownAliases_foldl there, fun i => ?_, rfl⟩
  have kept : seen ({ · with aliases := ∅ }) i (stateAfter (updateAliases actions c)) =
      seen ({ · with aliases := ∅ }) i c := seen_updateAliases (fun _ _ => rfl) actions i c
  rw [update] at kept
  exact kept

/-! ## Plans -/

/-- Changes of different indices come to the same in either order. -/
theorem withAliases_comm {i j : String} (apart : i ≠ j) (indices : Dict MemoryIndex)
    (f g : Aliases → Aliases) :
    withAliases (withAliases indices i f) j g = withAliases (withAliases indices j g) i f := by
  refine Dict.ext_get? fun key => ?_
  simp only [get?_withAliases, if_neg apart, if_neg apart.symm]
  by_cases hi : i = key
  · subst hi
    simp [apart.symm]
  · simp [hi]

/-- Additions to one index and removals from another come to the same in either order. -/
theorem foldl_addsFirst {p : SwitchPlan} (apart : p.old ≠ some p.new) (indices : Dict MemoryIndex) :
    (AliasAction.addsFirst p.actions).foldl applyAction indices = p.actions.foldl applyAction
      indices := by
  rw [AliasAction.addsFirst_actions, SwitchPlan.actions]
  cases given : p.old with
  | none => rw [List.append_nil, List.nil_append]
  | some old =>
    have other : old ≠ p.new := fun same => apart (same ▸ given)
    dsimp only
    rw [List.foldl_append, List.foldl_append, foldl_add, foldl_remove, foldl_remove, foldl_add,
      withAliases_comm other]

/-- An update says the same and leaves the same indices with its additions first, if it is that of a
plan. -/
theorem updateAliases_addsFirst {p : SwitchPlan} (apart : p.old ≠ some p.new) (c : MemoryCluster) :
    worked (updateAliases (AliasAction.addsFirst p.actions) c) = worked
      (updateAliases p.actions c) ∧
      (stateAfter (updateAliases (AliasAction.addsFirst p.actions) c)).indices =
        (stateAfter (updateAliases p.actions c)).indices := by
  have perm := AliasAction.addsFirst_perm p.actions
  by_cases there : ∀ action ∈ p.actions, c.indices.contains action.index = true
  · rw [updateAliases_of_forall there, updateAliases_of_forall fun action h =>
      there action (perm.subset h)]
    exact ⟨rfl, foldl_addsFirst apart c.indices⟩
  · obtain ⟨action, given, gone⟩ : ∃ action ∈ p.actions,
      c.indices.contains action.index = false := by simpa using there
    obtain ⟨_, -, -, refused⟩ := updateAliases_of_exists ⟨action, given, gone⟩
    obtain ⟨_, -, -, refused'⟩ := updateAliases_of_exists ⟨action, perm.symm.subset given, gone⟩
    rw [refused, refused']
    exact ⟨rfl, rfl⟩

/-- **Alias updates are all or nothing.** If an action is about an index that is not there the
update fails and the cluster is as it was; otherwise the actions are carried out in order, the
update is told, and nothing else changes. The actions of a plan that moves aliases to another index
come to the same with the additions first. -/
theorem updateAliases_allOrNothing (c : MemoryCluster) (actions : List AliasAction) :
    ((∃ action ∈ actions, c.indices.contains action.index = false) →
      ∃ failure, cluster.updateAliases actions c = .error failure c) ∧
    ((∀ action ∈ actions, c.indices.contains action.index = true) →
      ∃ v, cluster.updateAliases actions c = .ok () v ∧ AliasesUpdated actions c v) ∧
    ∀ p : SwitchPlan, p.actions = actions → p.old ≠ some p.new →
      let addedFirst := cluster.updateAliases (AliasAction.addsFirst actions) c
      worked addedFirst = worked (cluster.updateAliases actions c) ∧
        (stateAfter addedFirst).indices =
          (stateAfter (cluster.updateAliases actions c)).indices := by
  refine ⟨fun missing => ?_, aliasesUpdated, ?_⟩
  · obtain ⟨action, -, -, refused⟩ := updateAliases_of_exists missing
    exact ⟨_, refused⟩
  · rintro p rfl apart
    exact updateAliases_addsFirst apart c

/-- An alias that is added, removed and added again is there with its last filter; one that is
removed twice is gone. -/
theorem updateAliases_allOrNothing_again :
    let both : Aliases := .ofList [("books", none), ("shelf", some .null)]
    let c := (({} : MemoryCluster).seed "books1" both ∅).seed "books2" ∅ ∅
    let missing : List AliasAction := [.remove "books1" "books", .add "books3" "books" none]
    let again : List AliasAction :=
      [.add "books2" "new" none, .remove "books2" "new", .add "books2" "new" (some .null),
      .remove "books1" "shelf", .remove "books1" "shelf"]
    let p : SwitchPlan := ⟨some "books1", "books2", "books", both⟩
    (∃ failure, cluster.updateAliases missing c = .error failure c) ∧
    (∃ v, cluster.updateAliases again c = .ok () v ∧
      shownAliases v.indices "books2" "new" = some (some .null) ∧
      shownAliases v.indices "books1" "shelf" = none ∧
        shownAliases v.indices "books1" "books" = some none ∧
      v.aliasUpdates = [again]) ∧
    p.old ≠ some p.new ∧
    (stateAfter (cluster.updateAliases (AliasAction.addsFirst p.actions) c)).indices =
      (stateAfter (cluster.updateAliases p.actions c)).indices := by
  intro both c missing again p
  have gone : ∃ action ∈ missing, c.indices.contains action.index = false := by decide +kernel
  have there : ∀ action ∈ again, c.indices.contains action.index = true := by decide +kernel
  have apart : p.old ≠ some p.new := by decide
  obtain ⟨v, accepted, updated⟩ := (updateAliases_allOrNothing c again).2.1 there
  refine ⟨(updateAliases_allOrNothing c missing).1 gone, ⟨v, accepted, ?_, ?_, ?_, ?_⟩, apart,
    ((updateAliases_allOrNothing c p.actions).2.2 p rfl apart).2⟩
  · rw [updated.aliases]
    decide +kernel
  · rw [updated.aliases]
    decide +kernel
  · rw [updated.aliases]
    decide +kernel
  · rw [updated.told]
    rfl

end MemoryCluster

end Reindex
