import Reindex.Lifecycle

/-!
# The decision on the alias

`Lifecycle.switchIndex` taken apart by what it asks: whether the alias was decided on already,
whether there is one, whether the ledger is clean, and where the alias is. Only `Lifecycle.publish`,
the last of its branches, asks the cluster for anything but a look-up.

Main statements: `Lifecycle.switchIndex_of_direct`, `Lifecycle.switchIndex_of_skipped` and
`Lifecycle.switchIndex_of_clean`, one equation for each branch.
-/

namespace Reindex

/-- Nothing failed and something succeeded. -/
structure RunTally.Clean (tally : RunTally) : Prop where
  unmarked : tally.failed = false
  succeeded : 1 ≤ tally.counters.succeeded

/-- The alias moved. -/
def SwitchOutcome.isSwitched : SwitchOutcome → Bool
  | .switched _ _ _ _ => true
  | _ => false

namespace Lifecycle

variable {σ τ : Type}

theorem skipReason?_eq_none {tally : RunTally} : skipReason? tally = none ↔ tally.Clean := by
  unfold skipReason?
  constructor
  · intro h
    split at h
    · cases h
    · split at h
      · cases h
      · rename_i hf hs
        exact ⟨Bool.eq_false_iff.2 hf, Nat.one_le_iff_ne_zero.2 hs⟩
  · rintro ⟨hf, hs⟩
    rw [hf, if_neg Bool.false_ne_true, if_neg (Nat.one_le_iff_ne_zero.1 hs)]

/-- The aliases of the index that carries the alias go over to the index of the run. -/
def publish (cluster : Cluster σ τ) (l : Lifecycle) (aliasName : String) (old : Option String) :
    EStateM Error σ (SwitchOutcome × Lifecycle) := do
  let plan ← planSwitch cluster aliasName old l.identity.index
  call (cluster.updateAliases plan.actions)
  return (.switched aliasName plan.old l.identity.index plan.aliases.keys,
    { l with state := .switched })

theorem switchIndex_of_direct (cluster : Cluster σ τ) {l : Lifecycle} (hl : l.state = .ensured)
    (ha : l.identity.aliasName = none) (tally : RunTally) (s : σ) :
    switchIndex cluster l tally s = .ok (.notApplicable, l) s := by
  simp only [switchIndex]
  rw [if_neg (not_not_intro hl), ha]
  rfl

theorem switchIndex_of_skipped (cluster : Cluster σ τ) {l : Lifecycle} (hl : l.state = .ensured)
    {aliasName : String} (ha : l.identity.aliasName = some aliasName) {tally : RunTally}
    {reason : SkipReason} (ht : skipReason? tally = some reason) (s : σ) :
    switchIndex cluster l tally s = .ok (.skipped reason, { l with state := .skipped }) s := by
  simp only [switchIndex]
  rw [if_neg (not_not_intro hl), ha]
  dsimp only
  rw [ht]
  rfl

theorem switchIndex_of_clean (cluster : Cluster σ τ) {l : Lifecycle} (hl : l.state = .ensured)
    {aliasName : String} (ha : l.identity.aliasName = some aliasName) {tally : RunTally}
    (ht : tally.Clean) (s : σ) :
    switchIndex cluster l tally s =
      (aliasTarget cluster aliasName >>= fun old =>
        if old = some l.identity.index then pure (.alreadyCurrent, { l with state := .switched })
        else publish cluster l aliasName old) s := by
  simp only [switchIndex]
  rw [if_neg (not_not_intro hl), ha]
  dsimp only
  rw [skipReason?_eq_none.2 ht]
  rfl

/-- The alias moves under a clean ledger only. -/
theorem clean_of_switched {cluster : Cluster σ τ} {l : Lifecycle} {tally : RunTally} {s v : σ}
    {decided : SwitchOutcome × Lifecycle} (h : switchIndex cluster l tally s = .ok decided v)
    (hd : decided.1.isSwitched = true) : tally.Clean := by
  by_cases hl : l.state = .ensured
  · cases ha : l.identity.aliasName with
    | none =>
      rw [switchIndex_of_direct cluster hl ha] at h
      cases h
      cases hd
    | some aliasName =>
      cases ht : skipReason? tally with
      | none => exact skipReason?_eq_none.1 ht
      | some reason =>
        rw [switchIndex_of_skipped cluster hl ha ht] at h
        cases h
        cases hd
  · rw [switchIndex_of_finished cluster hl] at h
    cases h

end Lifecycle

end Reindex
