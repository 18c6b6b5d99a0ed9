import Reindex.Proofs.Lifecycle.Cutover
import Reindex.Proofs.Lifecycle.InMemory

/-!
# Naming and cutover read the same table

A run that looks its base name up picks the one numbered sibling of the name that carries it as
alias; any other index with that alias is passed over. The decision on the alias knows no such rule:
for it every index that carries the alias counts. So the index that was picked is found current if
it is alone with the alias. If it is not, the run has a target that its own cutover refuses.

Main statement: `Lifecycle.switchIndex_agrees`. `Lifecycle.switchIndex_disagrees` is a table that
the two read differently.
-/

namespace Reindex

variable {policy : NamingPolicy} {now : Instant} {index : String} {c v : MemoryCluster}

/-- A look-up picks the one numbered sibling of the base name that carries it. -/
theorem NamingPolicy.candidates_of_resolve (lookup : policy.minting? = none)
    (h : policy.resolve MemoryCluster.cluster now c = .ok (.behind policy.base index) v) :
    (c.carriers policy.base).filter (isNumberedSibling policy.base) = [index] := by
  have looked : call (MemoryCluster.cluster.aliases (.ofAlias policy.base)) c =
      .ok (c.aliasTable (.ofAlias policy.base)) c := rfl
  unfold resolve at h
  rw [lookup] at h
  dsimp only at h
  rw [bind_of_ok looked] at h
  obtain ⟨picked, -⟩ := ofExcept_eq_ok h
  rcases (pickCandidate_eq_ok_iff _ _ _).1 picked with ⟨-, direct⟩ | ⟨only, candidates, behind⟩
  · cases congrArg Identity.aliasName direct
  · cases congrArg Identity.index behind
    unfold Reindex.candidates at candidates
    rwa [MemoryCluster.keys_aliasTable] at candidates

namespace Lifecycle

variable {tuning : Tuning} {payload : IndexPayload} {options : LifecycleOptions} {l : Lifecycle}

/-- A start that deletes nothing leaves an index that is there as it is, and everything else with
it. -/
theorem eq_of_start (kept : options.deleteRequested = false)
    (started : start MemoryCluster.cluster policy now tuning payload options c = .ok l v)
    (present : c.Present l.identity.index) : v = c ∧ l.created = false := by
  have started := startedInMemory_of_ok started
  cases created : l.created with
  | false => exact ⟨(started.left created).1, rfl⟩
  | true => cases kept.symm.trans ((started.made created).2.1 present)

/-- **Naming and cutover.** A run found its index by a look-up of its base name, and the alias
tables stay as they were. Its cutover finds the index current if no other index carries the alias,
and otherwise names all that do; these others are the ones that the look-up passed over. -/
theorem switchIndex_agrees (lookup : policy.minting? = none)
    (kept : options.deleteRequested = false)
    (started : start MemoryCluster.cluster policy now tuning payload options c = .ok l v)
    (named : l.identity = .behind policy.base index) {w : MemoryCluster}
    (unchanged : ∀ i, w.aliasesOf i = v.aliasesOf i) {tally : RunTally} (clean : tally.Clean) :
    let decided := switchIndex MemoryCluster.cluster l tally w
    (c.carriers policy.base).filter (isNumberedSibling policy.base) = [index] ∧
      (c.carriers policy.base = [index] →
        decided = .ok (.alreadyCurrent, { l with state := .switched }) w) ∧
      (c.carriers policy.base ≠ [index] →
        decided = .error (.aliasAmbiguity policy.base (c.carriers policy.base)) w) := by
  intro decided
  have start := startedInMemory_of_ok started
  have picked : (c.carriers policy.base).filter (isNumberedSibling policy.base) = [index] :=
    NamingPolicy.candidates_of_resolve lookup (named ▸ start.identity)
  have carries : index ∈ c.carriers policy.base := by
    have among : index ∈ (c.carriers policy.base).filter (isNumberedSibling policy.base) := by
      rw [picked]
      exact .head _
    exact (List.mem_filter.1 among).1
  have present : c.Present l.identity.index := by
    obtain ⟨ix, there, -⟩ := MemoryCluster.get?_of_mem_carriers carries
    rw [named]
    exact Dict.contains_iff.2 ⟨ix, there⟩
  obtain ⟨rfl, -⟩ := eq_of_start kept started present
  have carriers : w.carriers policy.base = v.carriers policy.base :=
    MemoryCluster.carriers_congr unchanged _
  have behind : l.identity.aliasName = some policy.base := congrArg Identity.aliasName named
  refine ⟨picked, fun alone => ?_, fun shared => ?_⟩
  · refine switchIndex_of_current start.state behind clean ?_
    rw [carriers, alone, named]
    rfl
  · rw [← carriers] at shared carries ⊢
    refine switchIndex_of_many start.state behind clean ?_
    -- with fewer than two carriers the index would be alone
    refine Nat.lt_of_not_le fun few => shared ?_
    obtain ⟨only, alone⟩ :=
      List.length_eq_one_iff.1 (Nat.le_antisymm few (List.length_pos_of_mem carries))
    rw [alone] at carries ⊢
    rw [List.mem_singleton.1 carries]

/-- An index alone with the alias, between a look-up and a cutover. -/
theorem switchIndex_agrees_books7 :
    let policy : NamingPolicy := ⟨"books", none, true⟩
    let options : LifecycleOptions := { updateMode := true }
    let c := ({} : MemoryCluster).seed "books7" (.ofList [("books", none)]) ∅
    ∃ l, policy.minting? = none ∧ start MemoryCluster.cluster policy ⟨0, 0⟩ {}
      ⟨.null, .null⟩ options c = .ok l c ∧
      l.identity = .behind "books" "books7" ∧
      switchIndex MemoryCluster.cluster l ⟨{ succeeded := 1 }, false⟩ c =
        .ok (.alreadyCurrent, { l with state := .switched }) c := by
  intro policy options c
  let l : Lifecycle := ⟨.behind "books" "books7", {}, options, .ensured, false⟩
  have started : start MemoryCluster.cluster policy ⟨0, 0⟩ {} ⟨.null, .null⟩ options c = .ok l _ :=
    eq_ok_of_answer (by decide +kernel)
  have clean : RunTally.Clean ⟨{ succeeded := 1 }, false⟩ := ⟨rfl, Nat.le_refl 1⟩
  obtain ⟨-, current, -⟩ := switchIndex_agrees rfl rfl started rfl (fun _ => rfl) clean
  have present : c.indices.contains l.identity.index = true := by decide +kernel
  obtain ⟨same, -⟩ := eq_of_start rfl started present
  rw [same] at started current
  exact ⟨l, rfl, started, rfl, current (by decide +kernel)⟩

/-- **The run has a target that its cutover refuses.** The alias is on `books7`, which the look-up
picks, and on `books-archive`, which it passes over. -/
theorem switchIndex_disagrees :
    let policy : NamingPolicy := ⟨"books", none, true⟩
    let options : LifecycleOptions := { updateMode := true }
    let carrying : Aliases := .ofList [("books", none)]
    let c := (({} : MemoryCluster).seed "books7" carrying ∅).seed "books-archive" carrying ∅
    ∃ l, policy.minting? = none ∧ options.deleteRequested = false ∧
      start MemoryCluster.cluster policy ⟨0, 0⟩ {} ⟨.null, .null⟩ options c = .ok l c ∧
      l.identity = .behind "books" "books7" ∧
      switchIndex MemoryCluster.cluster l ⟨{ succeeded := 1 }, false⟩ c =
        .error (.aliasAmbiguity "books" ["books-archive", "books7"]) c := by
  intro policy options carrying c
  let l : Lifecycle := ⟨.behind "books" "books7", {}, options, .ensured, false⟩
  have started : start MemoryCluster.cluster policy ⟨0, 0⟩ {} ⟨.null, .null⟩ options c = .ok l _ :=
    eq_ok_of_answer (by decide +kernel)
  have present : c.indices.contains l.identity.index = true := by decide +kernel
  obtain ⟨same, -⟩ := eq_of_start rfl started present
  rw [same] at started
  have carriers : c.carriers "books" = ["books-archive", "books7"] := by decide +kernel
  refine ⟨l, rfl, rfl, started, rfl, ?_⟩
  rw [← carriers]
  exact switchIndex_of_many rfl rfl ⟨rfl, Nat.le_refl 1⟩ (carriers ▸ Nat.le_refl 2)

end Lifecycle

end Reindex
