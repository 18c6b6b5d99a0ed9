import Reindex.Calls
import Reindex.Proofs.Cluster.Aliases
import Reindex.Proofs.Lifecycle.Switch

/-!
# The cutover

What the decision on an alias does to the cluster in memory. Where the alias is on several indices,
on the index of the run already, or the index of the run is gone, nothing happens. Otherwise all
aliases of the one index that carries it go over in one update; no alias is lost on the way, and
none comes to be on more indices than before but the one that was asked for.

Main statements: `Lifecycle.cutOver` for the update and `Lifecycle.switchIndex_cutover` for the
decision.
-/

namespace Reindex

namespace Lifecycle

/-! ## The plan -/

/-- What goes over to the index of a run: all aliases of the old index, or the alias alone if there
is none. -/
def moving (c : MemoryCluster) (aliasName : String) : Option String → Aliases
  | some old => c.aliasesOf old
  | none => (∅ : Aliases).insert aliasName none

/-- The plan of a cutover. -/
def cutoverPlan (c : MemoryCluster) (aliasName new : String) (old : Option String) : SwitchPlan :=
  ⟨old, new, aliasName, moving c aliasName old⟩

/-- The cluster behind a cutover. -/
def cut (c : MemoryCluster) (p : SwitchPlan) : MemoryCluster :=
  { c with indices := p.actions.foldl MemoryCluster.applyAction c.indices, aliasUpdates := c.aliasUpdates ++ [p.actions] }

theorem moving_contains {c : MemoryCluster} {aliasName : String} {old : Option String}
    (hc : c.carriers aliasName = old.toList) :
    (moving c aliasName old).contains aliasName = true := by
  cases old with
  | none =>
    show (((∅ : Aliases).insert aliasName none).get? aliasName).isSome = true
    rw [Dict.get?_insert, if_pos rfl]
    rfl
  | some old => exact MemoryCluster.mem_carriers.1 (hc ▸ .head _)

theorem aliasTarget_memory (c : MemoryCluster) (aliasName : String) :
    aliasTarget MemoryCluster.cluster aliasName c =
      match c.carriers aliasName with
      | [] => .ok none c
      | [only] => .ok (some only) c
      | many => .error (.aliasAmbiguity aliasName many) c := by
  have looked : call (MemoryCluster.cluster.aliases (.ofAlias aliasName)) c = .ok
    (c.aliasTable (.ofAlias aliasName)) c := rfl
  unfold aliasTarget
  rw [bind_of_ok looked, MemoryCluster.keys_aliasTable]
  rcases c.carriers aliasName with _ | ⟨only, _ | ⟨next, rest⟩⟩ <;> rfl

theorem planSwitch_memory {c : MemoryCluster} {aliasName : String} {old : Option String}
    (new : String) (hc : c.carriers aliasName = old.toList) :
    planSwitch MemoryCluster.cluster aliasName old new c = .ok
      (cutoverPlan c aliasName new old) c := by
  cases old with
  | none => rfl
  | some old =>
    obtain ⟨ix, hi, -⟩ :=
      MemoryCluster.get?_of_mem_carriers (show old ∈ c.carriers aliasName from hc ▸ .head _)
    have found : call (MemoryCluster.cluster.indexExists old) c = .ok true c := by
      show EStateM.Result.ok (c.indices.get? old).isSome c = _
      rw [hi]
      rfl
    have looked : call (MemoryCluster.cluster.aliases (.ofIndex old)) c = .ok
      (c.aliasTable (.ofIndex old)) c := rfl
    have same : withAlias (c.aliasesOf old) aliasName = c.aliasesOf old :=
      if_pos (moving_contains hc)
    unfold planSwitch
    dsimp only
    rw [bind_of_ok found, if_pos rfl, bind_of_ok looked, MemoryCluster.get?_aliasTable, same]
    rfl

/-! ## The update -/

theorem mem_actions {p : SwitchPlan} {action : AliasAction} (h : action ∈ p.actions) :
    action.index = p.new ∨ p.old = some action.index := by
  unfold SwitchPlan.actions at h
  rcases List.mem_append.1 h with h | h
  · cases ho : p.old with
    | none =>
      rw [ho] at h
      cases h
    | some old =>
      rw [ho] at h
      obtain ⟨name, -, rfl⟩ := List.mem_map.1 h
      exact .inr rfl
  · obtain ⟨⟨name, filter⟩, -, rfl⟩ := List.mem_map.1 h
    exact .inl rfl

/-- A plan that moves an alias has an action on the new index. -/
theorem exists_action {p : SwitchPlan} {aliasName : String}
    (h : p.aliases.contains aliasName = true) :
    ∃ action ∈ p.actions, action.index = p.new := by
  obtain ⟨filter, hf⟩ := Dict.contains_iff.1 h
  refine ⟨.add p.new aliasName filter, List.mem_append.2 (.inr ?_), rfl⟩
  exact List.mem_map.2 ⟨(aliasName, filter), (Dict.mem_entries_iff _ _ _).2 hf, rfl⟩

theorem updateAliases_of_present {c : MemoryCluster} {p : SwitchPlan}
    (hn : c.indices.contains p.new = true) (ho : ∀ old ∈ p.old, c.indices.contains old = true) : MemoryCluster.updateAliases p.actions c = .ok () (cut c p) := by
  have none : p.actions.find? (fun a => !c.indices.contains a.index) = none := by
    refine List.find?_eq_none.2 fun action h => ?_
    rcases mem_actions h with h | h
    · simp [h, hn]
    · simp [ho _ h]
  unfold MemoryCluster.updateAliases
  rw [none]
  rfl

theorem updateAliases_of_missing {c : MemoryCluster} {p : SwitchPlan} {aliasName : String}
    (ha : p.aliases.contains aliasName = true) (hn : c.indices.contains p.new = false)
    (ho : ∀ old ∈ p.old, c.indices.contains old = true) :
    MemoryCluster.updateAliases p.actions c = .error (.aliasActionOnMissing p.new) c := by
  unfold MemoryCluster.updateAliases
  cases hf : p.actions.find? (fun a => !c.indices.contains a.index) with
  | some action =>
    have missing := List.find?_some hf
    rcases mem_actions (List.mem_of_find?_eq_some hf) with h | h
    · dsimp only
      rw [h]
    · rw [ho _ h] at missing
      cases missing
  | none =>
    obtain ⟨action, hm, hi⟩ := exists_action ha
    have := List.find?_eq_none.1 hf action hm
    rw [hi, hn] at this
    exact absurd rfl this

/-! ## Behind the update -/

/-- What a cutover of `aliasName` from `old` to `new` leaves of a cluster. -/
structure CutOver (c v : MemoryCluster) (aliasName new : String) (old : Option String) : Prop where
  /-- The old index gives all of its aliases away. -/
  given : ∀ o, old = some o → v.aliasesOf o = ∅
  /-- The new index has what goes over, with the filters it had, and what it had besides. -/
  received : ∀ b,
    (v.aliasesOf new).get? b = ((moving c aliasName old).get? b <|> (c.aliasesOf new).get? b)
  others : ∀ i, i ≠ new → old ≠ some i → v.indices.get? i = c.indices.get? i
  /-- Nothing of an index changes but its aliases. -/
  contents : ∀ i, (v.indices.get? i).map ({ · with aliases := ∅ }) = (c.indices.get? i).map
    ({ · with aliases := ∅ })
  /-- One update is told, and nothing else of the cluster changes. -/
  told : v = { c with indices := v.indices, aliasUpdates := c.aliasUpdates ++
    [(cutoverPlan c aliasName new old).actions] }
  carriers : v.carriers aliasName = [new]
  /-- No alias loses its last index. -/
  covered : ∀ b, c.carriers b ≠ [] → v.carriers b ≠ []
  /-- No other alias comes to be on more indices. -/
  bounded : ∀ b, b ≠ aliasName → (v.carriers b).length ≤ (c.carriers b).length

variable {c : MemoryCluster} {aliasName new : String} {old : Option String}

/-- The indices behind a plan: first the old one loses, then the new one gains. -/
theorem indices_cut (p : SwitchPlan) :
    (cut c p).indices = MemoryCluster.withAliases
      (match p.old with
        | some old => MemoryCluster.withAliases c.indices old fun aliases =>
            p.aliases.keys.foldl Dict.erase aliases
        | none => c.indices)
      p.new (·.mergeInto p.aliases) := by
  unfold cut SwitchPlan.actions
  dsimp only
  rw [List.foldl_append, MemoryCluster.foldl_add]
  cases p.old with
  | none => rfl
  | some old => rw [MemoryCluster.foldl_remove]

/-- One index behind a cutover. -/
theorem get?_cut (hne : old ≠ some new) (key : String) :
    (cut c (cutoverPlan c aliasName new old)).indices.get? key =
      (c.indices.get? key).map fun ix =>
        { ix with aliases :=
            if key = new then ix.aliases.mergeInto (moving c aliasName old)
            else if old = some key then ∅ else ix.aliases } := by
  rw [indices_cut, MemoryCluster.get?_withAliases]
  cases old with
  | none =>
    by_cases hk : new = key
    · subst hk
      simp [cutoverPlan]
    · simp [cutoverPlan, hk, Ne.symm hk]
  | some old =>
    have hon : old ≠ new := fun h => hne (congrArg some h)
    simp only [cutoverPlan, MemoryCluster.get?_withAliases, if_neg hon]
    by_cases hk : new = key
    · subst hk
      simp
    · by_cases ho : old = key
      · subst ho
        cases hi : c.indices.get? old with
        | none => simp [hk]
        | some ix =>
          have all : (moving c aliasName (some old)) = ix.aliases := by
            show ((c.indices.get? old).map (·.aliases)).getD ∅ = ix.aliases
            rw [hi]
            rfl
          simp [hk, hon, all, MemoryCluster.foldl_erase_keys]
      · simp [hk, ho, Ne.symm hk]

/-- The aliases of one index behind a cutover. -/
theorem aliasesOf_cut (hne : old ≠ some new) (hn : c.indices.contains new = true) (key : String) :
    (cut c (cutoverPlan c aliasName new old)).aliasesOf key =
      if key = new then (c.aliasesOf new).mergeInto (moving c aliasName old)
      else if old = some key then ∅ else c.aliasesOf key := by
  unfold MemoryCluster.aliasesOf
  rw [get?_cut hne]
  by_cases hk : key = new
  · subst hk
    obtain ⟨ix, hi⟩ := Dict.contains_iff.1 hn
    simp [hi]
  · cases c.indices.get? key <;> simp [hk]

/-- The indices that carry an alias behind a cutover. -/
theorem mem_carriers_cut (hne : old ≠ some new) (hn : c.indices.contains new = true)
    (b key : String) :
    key ∈ (cut c (cutoverPlan c aliasName new old)).carriers b ↔
      (key = new ∧ ((moving c aliasName old).contains b = true ∨ new ∈ c.carriers b)) ∨
        (key ≠ new ∧ old ≠ some key ∧ key ∈ c.carriers b) := by
  rw [MemoryCluster.mem_carriers, aliasesOf_cut hne hn, MemoryCluster.mem_carriers,
    MemoryCluster.mem_carriers]
  by_cases hk : key = new
  · subst hk
    rw [if_pos rfl, Dict.contains_mergeInto, Bool.or_eq_true]
    simp
  · rw [if_neg hk]
    by_cases ho : old = some key
    · rw [if_pos ho]
      simp [hk, ho, Dict.contains_eq, Dict.get?_empty]
    · rw [if_neg ho]
      simp [hk, ho]

theorem carriers_cut (hne : old ≠ some new) (hn : c.indices.contains new = true)
    (hc : c.carriers aliasName = old.toList) :
    (cut c (cutoverPlan c aliasName new old)).carriers aliasName = [new] := by
  refine MemoryCluster.carriers_eq_singleton fun key => ?_
  rw [← MemoryCluster.mem_carriers, mem_carriers_cut hne hn, hc]
  simp only [Option.mem_toList]
  constructor
  · rintro (⟨hk, -⟩ | ⟨-, ho, hk⟩)
    · exact hk
    · exact absurd hk ho
  · intro hk
    exact .inl ⟨hk, .inl (moving_contains hc)⟩

/-- Whoever gave an alias away gave it to the new index. -/
theorem covered_cut (hne : old ≠ some new) (hn : c.indices.contains new = true) {b : String}
    (hb : c.carriers b ≠ []) : (cut c (cutoverPlan c aliasName new old)).carriers b ≠ [] := by
  obtain ⟨key, hk⟩ := List.exists_mem_of_ne_nil _ hb
  by_cases hn' : key = new
  · subst hn'
    exact List.ne_nil_of_mem ((mem_carriers_cut hne hn b key).2 (.inl ⟨rfl, .inr hk⟩))
  · by_cases ho : old = some key
    · subst ho
      have given : (moving c aliasName (some key)).contains b = true :=
        MemoryCluster.mem_carriers.1 hk
      exact List.ne_nil_of_mem ((mem_carriers_cut hne hn b new).2 (.inl ⟨rfl, .inl given⟩))
    · exact List.ne_nil_of_mem ((mem_carriers_cut hne hn b key).2 (.inr ⟨hn', ho, hk⟩))

/-- The new index takes the place of the old one: an alias that comes to the one has left the
other. -/
theorem bounded_cut (hne : old ≠ some new) (hn : c.indices.contains new = true) {b : String}
    (hb : b ≠ aliasName) :
    ((cut c (cutoverPlan c aliasName new old)).carriers b).length ≤ (c.carriers b).length := by
  have nodup := MemoryCluster.nodup_carriers (cut c (cutoverPlan c aliasName new old)) b
  by_cases hm : (moving c aliasName old).contains b = true
  · -- only the aliases of an old index move, and `b` is one of them
    cases old with
    | none =>
      rw [Dict.contains_iff] at hm
      obtain ⟨filter, hf⟩ := hm
      unfold moving at hf
      rw [Dict.get?_insert, if_neg hb.symm] at hf
      cases hf
    | some o =>
      have ho : o ∈ c.carriers b := MemoryCluster.mem_carriers.2 hm
      have subset : (cut c (cutoverPlan c aliasName new (some o))).carriers b ⊆
        new :: (c.carriers b).erase o := by
        intro key hk
        rcases (mem_carriers_cut hne hn b key).1 hk with ⟨rfl, -⟩ | ⟨-, hko, hk⟩
        · exact .head _
        · exact .tail _ ((List.mem_erase_of_ne fun h => hko (congrArg some h.symm)).2 hk)
      calc ((cut c (cutoverPlan c aliasName new (some o))).carriers b).length
          ≤ (new :: (c.carriers b).erase o).length := nodup.length_le_of_subset subset
        _ = (c.carriers b).length := by
          rw [List.length_cons, List.length_erase_of_mem ho]
          exact Nat.sub_add_cancel (List.length_pos_of_mem ho)
  · refine nodup.length_le_of_subset fun key hk => ?_
    rcases (mem_carriers_cut hne hn b key).1 hk with ⟨rfl, h | h⟩ | ⟨-, -, h⟩
    · exact absurd h hm
    · exact h
    · exact h

/-- **Main result.** What the update of a cutover leaves behind. -/
theorem cutOver (hne : old ≠ some new) (hn : c.indices.contains new = true)
    (hc : c.carriers aliasName = old.toList) : CutOver c (cut c (cutoverPlan c aliasName new old)) aliasName new old where
  given o ho := by
    have hon : o ≠ new := fun h => hne (h ▸ ho)
    rw [aliasesOf_cut hne hn, if_neg hon, if_pos ho]
  received b := by
    rw [aliasesOf_cut hne hn, if_pos rfl, Dict.get?_mergeInto]
  others i hi ho := by
    rw [get?_cut hne]
    simp only [if_neg hi, if_neg ho]
    cases c.indices.get? i <;> rfl
  contents i := by
    rw [get?_cut hne]
    cases c.indices.get? i <;> rfl
  told := rfl
  carriers := carriers_cut hne hn hc
  covered _ hb := covered_cut hne hn hb
  bounded _ hb := bounded_cut hne hn hb

/-! ## The decision -/

theorem contains_of_carriers (hc : c.carriers aliasName = old.toList) :
    ∀ o ∈ old, c.indices.contains o = true := by
  rintro o rfl
  obtain ⟨ix, hi, -⟩ :=
    MemoryCluster.get?_of_mem_carriers (show o ∈ c.carriers aliasName from hc ▸ .head _)
  exact Dict.contains_iff.2 ⟨ix, hi⟩

theorem aliasTarget_of_carriers (hc : c.carriers aliasName = old.toList) :
    aliasTarget MemoryCluster.cluster aliasName c = .ok old c := by
  rw [aliasTarget_memory, hc]
  cases old <;> rfl

theorem aliasTarget_of_many (hc : 2 ≤ (c.carriers aliasName).length) :
    aliasTarget MemoryCluster.cluster aliasName c = .error
      (.aliasAmbiguity aliasName (c.carriers aliasName)) c := by
  rw [aliasTarget_memory]
  rcases hm : c.carriers aliasName with _ | ⟨only, _ | ⟨next, rest⟩⟩
  · rw [hm] at hc
    cases hc
  · rw [hm] at hc
    exact absurd hc (Nat.not_succ_le_self 1)
  · rfl

theorem publish_of_present (l : Lifecycle) (hc : c.carriers aliasName = old.toList)
    (hn : c.indices.contains l.identity.index = true) :
    publish MemoryCluster.cluster l aliasName old c =
      .ok (.switched aliasName old l.identity.index (moving c aliasName old).keys,
        { l with state := .switched })
        (cut c (cutoverPlan c aliasName l.identity.index old)) := by
  have updated :
    call (MemoryCluster.cluster.updateAliases
      (cutoverPlan c aliasName l.identity.index old).actions) c =
      .ok () (cut c (cutoverPlan c aliasName l.identity.index old)) :=
    call_of_ok (updateAliases_of_present hn (contains_of_carriers hc))
  unfold publish
  rw [bind_of_ok (planSwitch_memory _ hc), bind_of_ok updated]
  rfl

theorem publish_of_missing (l : Lifecycle) (hc : c.carriers aliasName = old.toList)
    (hn : c.indices.contains l.identity.index = false) :
    publish MemoryCluster.cluster l aliasName old c =
      .error (.cluster (.aliasActionOnMissing l.identity.index)) c := by
  have refused :
    call (MemoryCluster.cluster.updateAliases
      (cutoverPlan c aliasName l.identity.index old).actions) c =
      .error (.cluster (.aliasActionOnMissing l.identity.index)) c :=
    call_of_error (updateAliases_of_missing (moving_contains hc) hn (contains_of_carriers hc))
  unfold publish
  rw [bind_of_ok (planSwitch_memory _ hc), bind_of_error refused]

section

variable {l : Lifecycle} {tally : RunTally}

theorem switchIndex_of_many (hl : l.state = .ensured) (ha : l.identity.aliasName = some aliasName)
    (ht : tally.Clean) (many : 2 ≤ (c.carriers aliasName).length) :
    switchIndex MemoryCluster.cluster l tally c = .error
      (.aliasAmbiguity aliasName (c.carriers aliasName)) c := by
  rw [switchIndex_of_clean MemoryCluster.cluster hl ha ht, bind_of_error (aliasTarget_of_many many)]

theorem switchIndex_of_current (hl : l.state = .ensured)
    (ha : l.identity.aliasName = some aliasName) (ht : tally.Clean)
    (current : c.carriers aliasName = [l.identity.index]) :
    switchIndex MemoryCluster.cluster l tally c = .ok
      (.alreadyCurrent, { l with state := .switched }) c := by
  rw [switchIndex_of_clean MemoryCluster.cluster hl ha ht,
    bind_of_ok (@aliasTarget_of_carriers c aliasName (some l.identity.index) current), if_pos rfl]
  rfl

theorem switchIndex_of_missing (hl : l.state = .ensured)
    (ha : l.identity.aliasName = some aliasName) (ht : tally.Clean)
    (hc : c.carriers aliasName = old.toList) (hne : old ≠ some l.identity.index)
    (missing : c.indices.contains l.identity.index = false) :
    switchIndex MemoryCluster.cluster l tally c = .error
      (.cluster (.aliasActionOnMissing l.identity.index)) c := by
  rw [switchIndex_of_clean MemoryCluster.cluster hl ha ht, bind_of_ok (aliasTarget_of_carriers hc),
    if_neg hne, publish_of_missing l hc missing]

theorem switchIndex_of_present (hl : l.state = .ensured)
    (ha : l.identity.aliasName = some aliasName) (ht : tally.Clean)
    (hc : c.carriers aliasName = old.toList) (hne : old ≠ some l.identity.index)
    (present : c.indices.contains l.identity.index = true) :
    switchIndex MemoryCluster.cluster l tally c =
      .ok (.switched aliasName old l.identity.index (moving c aliasName old).keys,
        { l with state := .switched })
        (cut c (cutoverPlan c aliasName l.identity.index old)) := by
  rw [switchIndex_of_clean MemoryCluster.cluster hl ha ht, bind_of_ok (aliasTarget_of_carriers hc),
    if_neg hne, publish_of_present l hc present]

/-- What a decision comes to in memory: the cluster stays as it is, or there was a cutover to the
index of the run. -/
inductive Decision (l : Lifecycle) (c : MemoryCluster) :
    EStateM.Result Error MemoryCluster (SwitchOutcome × Lifecycle) → Prop
  | failed (e : Error) : Decision l c (.error e c)
  | stayed {decided : SwitchOutcome × Lifecycle} (unmoved : decided.1.isSwitched = false) :
      Decision l c (.ok decided c)
  | moved {aliasName : String} {old : Option String} {v : MemoryCluster}
      (named : l.identity.aliasName = some aliasName) (carried : c.carriers aliasName = old.toList)
      (fresh : old ≠ some l.identity.index) (cutOver : CutOver c v aliasName l.identity.index old) :
      Decision l c
        (.ok (.switched aliasName old l.identity.index (moving c aliasName old).keys,
          { l with state := .switched }) v)

/-- **Every decision** is one of these. -/
theorem decision_memory (l : Lifecycle) (tally : RunTally) (c : MemoryCluster) :
    Decision l c (switchIndex MemoryCluster.cluster l tally c) := by
  by_cases hl : l.state = .ensured
  · cases ha : l.identity.aliasName with
    | none =>
      rw [switchIndex_of_direct _ hl ha]
      exact .stayed rfl
    | some aliasName =>
      cases ht : skipReason? tally with
      | some reason =>
        rw [switchIndex_of_skipped _ hl ha ht]
        exact .stayed rfl
      | none =>
        have clean := skipReason?_eq_none.1 ht
        by_cases ambiguous : 2 ≤ (c.carriers aliasName).length
        · rw [switchIndex_of_many hl ha clean ambiguous]
          exact .failed _
        · obtain ⟨old, hc⟩ := MemoryCluster.carriers_of_few ambiguous
          by_cases own : old = some l.identity.index
          · rw [switchIndex_of_current hl ha clean (by rw [hc, own]; rfl)]
            exact .stayed rfl
          · cases hn : c.indices.contains l.identity.index with
            | false =>
              rw [switchIndex_of_missing hl ha clean hc own hn]
              exact .failed _
            | true =>
              rw [switchIndex_of_present hl ha clean hc own hn]
              exact .moved ha hc own (cutOver own hn hc)
  · rw [switchIndex_of_finished _ hl]
    exact .failed _

/-- A decision that moved the alias was a cutover. -/
theorem cutOver_of_switched {v : MemoryCluster} {decided : SwitchOutcome × Lifecycle}
    (h : switchIndex MemoryCluster.cluster l tally c = .ok decided v)
    (switched : decided.1.isSwitched = true) :
    ∃ aliasName old, l.identity.aliasName = some aliasName ∧ c.carriers aliasName = old.toList ∧
      old ≠ some l.identity.index ∧ CutOver c v aliasName l.identity.index old := by
  have decision := decision_memory l tally c
  rw [h] at decision
  cases decision with
  | stayed unmoved => cases unmoved.symm.trans switched
  | moved named carried fresh cutOver => exact ⟨_, _, named, carried, fresh, cutOver⟩

end

/-- **The cutover.** Under a clean tally the indices that carry the alias decide. Several of them
are an error, the index of the run alone leaves nothing to do, and a lost index is an error; in any
other case the index of the run takes over. -/
theorem switchIndex_cutover {l : Lifecycle} (hl : l.state = .ensured) {aliasName : String}
    (ha : l.identity.aliasName = some aliasName) {tally : RunTally} (ht : tally.Clean)
    (c : MemoryCluster) :
    let new := l.identity.index
    let r := switchIndex MemoryCluster.cluster l tally c
    (2 ≤ (c.carriers aliasName).length →
      r = .error (.aliasAmbiguity aliasName (c.carriers aliasName)) c) ∧
      (c.carriers aliasName = [new] → r = .ok (.alreadyCurrent, { l with state := .switched }) c) ∧
      ∀ old : Option String, c.carriers aliasName = old.toList → old ≠ some new →
        (c.indices.contains new = false → r = .error (.cluster (.aliasActionOnMissing new)) c) ∧
        (c.indices.contains new = true →
          ∃ v, r = .ok (.switched aliasName old new (moving c aliasName old).keys,
            { l with state := .switched }) v ∧
            CutOver c v aliasName new old) := by
  intro new r
  exact ⟨switchIndex_of_many hl ha ht, switchIndex_of_current hl ha ht, fun old hc hne =>
    ⟨switchIndex_of_missing hl ha ht hc hne, fun present =>
      ⟨_, switchIndex_of_present hl ha ht hc hne present, cutOver hne present hc⟩⟩⟩

/-- Two aliases move to an index that has one of them already, with a filter of its own. -/
theorem switchIndex_cutover_shelf :
    let c := ((({} : MemoryCluster).seed "books1" (.ofList [("books", none), ("shelf", some .null)])
      ∅).seed "books2"
      (.ofList [("draft", none), ("shelf", none)]) ∅)
    let l : Lifecycle := ⟨.behind "books" "books2", {}, {}, .ensured, false⟩
    ∃ v, switchIndex MemoryCluster.cluster l ⟨{ succeeded := 1 }, false⟩ c =
        .ok (.switched "books" (some "books1") "books2" ["books", "shelf"],
          { l with state := .switched }) v ∧
      (v.aliasesOf "books2").entries = [("books", none), ("draft", none), ("shelf", some .null)] ∧
      CutOver c v "books" "books2" (some "books1") := by
  intro c l
  let tally : RunTally := ⟨{ succeeded := 1 }, false⟩
  have clean : tally.Clean := ⟨rfl, Nat.le_refl 1⟩
  have moved : (moving c "books" (some "books1")).keys = ["books", "shelf"] := by decide +kernel
  have given :
    ((stateAfter (switchIndex MemoryCluster.cluster l tally c)).aliasesOf "books2").entries =
      [("books", none), ("draft", none), ("shelf", some .null)] := by decide +kernel
  obtain ⟨v, hv, cutOver⟩ := (((switchIndex_cutover (l := l) rfl rfl clean c).2.2 (some "books1")
    (by decide +kernel) (by decide)).2 (by decide +kernel))
  rw [hv] at given
  rw [moved] at hv
  exact ⟨v, hv, given, cutOver⟩

end Lifecycle

end Reindex
