import Reindex.Proofs.Cluster.Frame
import Reindex.Proofs.Lifecycle.Cutover
import Reindex.Proofs.Lifecycle.InMemory
import Reindex.Proofs.Session.Course

/-!
# The aliases of a run that goes live

Between its start and its end a session on the cluster in memory changes no alias, and at its end
all aliases of the index in service go over to the index of the run. The start may change aliases in
one way: an index that is deleted and made again has none. If that is the index in service then
nothing is left to go over, and the index of the run gets the base alias alone.

Main statement: `Session.aliases_kept`.
-/

namespace Reindex

namespace MemoryCluster

/-- The aliases of every index are these. -/
def AliasesAre (table : String → Aliases) (c : MemoryCluster) : Prop := ∀ index, c.aliasesOf index = table index

variable {table : String → Aliases}

theorem AliasesAre.of_seen {c v : MemoryCluster} (h : AliasesAre table c)
    (same : ∀ index, seen (·.aliases) index v = seen (·.aliases) index c) : AliasesAre table v := fun index =>
  (congrArg (·.getD ∅) (same index)).trans (h index)

/-- **A writer changes no alias.** -/
theorem steady_aliases : cluster.Steady (AliasesAre table) where
  beginBulk _ _ _ _ h := h
  finishBulk _ key ops c h := h.of_seen fun index => seen_bulk (fun _ _ => rfl) key ops index c
  serves hs h := by
    cases hs with
    | refresh key => exact h.of_seen fun index => seen_refreshIndex (fun _ _ => rfl) key index _
    | settings key update => exact h.of_seen fun index => seen_updateSettings (fun _ _ _ => rfl) key update index _
    | read key id => exact h
    | store key id body => exact h.of_seen fun index => seen_putDocument (fun _ _ => rfl) key id body index _

end MemoryCluster

namespace Lifecycle

/-- The aliases that a start leaves: an index that was made has none, and all others have what they
had. -/
def startingAliases (l : Lifecycle) (c : MemoryCluster) (index : String) : Aliases :=
  if l.created = true ∧ l.identity.index = index then ∅ else c.aliasesOf index

theorem aliases_of_start {policy : NamingPolicy} {now : Instant} {tuning : Tuning}
    {payload : IndexPayload} {options : LifecycleOptions} {c v : MemoryCluster} {l : Lifecycle}
    (h : StartedInMemory policy now tuning payload options c l v) :
    v.AliasesAre (l.startingAliases c) := by
  intro index
  unfold startingAliases
  cases hb : l.created with
  | false =>
    rw [if_neg (by simp), (h.left hb).1]
  | true =>
    obtain ⟨-, -, -, indices⟩ := h.made hb
    unfold MemoryCluster.aliasesOf
    rw [indices]
    by_cases hi : l.identity.index = index
    · rw [if_pos hi, if_pos ⟨rfl, hi⟩]
      rfl
    · rw [if_neg hi, if_neg fun made => hi made.2]

/-- Behind a start the index in service is in service yet, unless the run deleted it and made it
again. -/
theorem carriers_of_start {c u : MemoryCluster} {l : Lifecycle} {base o : String}
    (inService : c.carriers base = [o]) (aliases : u.AliasesAre (l.startingAliases c)) :
    u.carriers base = if l.created = true ∧ l.identity.index = o then [] else [o] := by
  have carrier (key : String) : key ∈ u.carriers base ↔
    ¬(l.created = true ∧ l.identity.index = key) ∧ key = o := by
    have before : (c.aliasesOf key).contains base = true ↔ key = o := by
      rw [← MemoryCluster.mem_carriers, inService, List.mem_singleton]
    rw [MemoryCluster.mem_carriers, aliases key, startingAliases, ← before]
    split
    · rename_i remade
      exact ⟨fun h => (by cases h), fun h => absurd remade h.1⟩
    · rename_i kept
      exact ⟨fun h => ⟨kept, h⟩, And.right⟩
  split
  · rename_i remade
    refine List.eq_nil_iff_forall_not_mem.2 fun key hk => ?_
    obtain ⟨kept, rfl⟩ := (carrier key).1 hk
    exact kept remade
  · rename_i kept
    refine MemoryCluster.carriers_eq_singleton fun key => ?_
    rw [← MemoryCluster.mem_carriers, carrier]
    exact ⟨And.right, fun h => ⟨h ▸ kept, h⟩⟩

end Lifecycle

namespace Session

variable {policy : NamingPolicy} {now : Instant} {tuning : Tuning} {payload : IndexPayload}
    {options : SessionOptions} {c : MemoryCluster} {s v : Session MemoryCluster Unit}
    {summary : RunSummary}

/-- A session that went live cut over in a cluster that has the aliases which the start left. -/
theorem cutOver_of_close
    (hs : start MemoryCluster.cluster policy now tuning payload options c = .ok s)
    (calls : List Call)
    (closed : close MemoryCluster.cluster true (carryOut MemoryCluster.cluster calls s) =
      .ok summary v)
    (switched : summary.outcome.isSwitched = true) :
    ∃ u old, u.AliasesAre (s.lifecycle.startingAliases c) ∧
      u.carriers policy.base = Option.toList old ∧
      old ≠ some s.lifecycle.identity.index ∧
      Lifecycle.CutOver u v.writer.cluster policy.base s.lifecycle.identity.index old := by
  obtain ⟨l, v₀, hl, rfl⟩ := ofLifecycle_of_start hs
  have started := Lifecycle.startedInMemory_of_ok hl
  obtain ⟨h, course, rest, same⟩ :=
    course_carryOut MemoryCluster.cluster calls (s := ofLifecycle l options.writer v₀) trivial
  obtain ⟨g, d, course', -, decided⟩ := switchIndex_of_close rest closed
  rw [show (carryOut MemoryCluster.cluster calls _).lifecycle = l from same] at decided
  have aliases := Writer.steady MemoryCluster.steady_aliases (Lifecycle.aliases_of_start started)
    (course.trans course')
  obtain ⟨aliasName, old, named, carried, fresh, cutOver⟩ :=
    Lifecycle.cutOver_of_switched decided switched
  obtain rfl := NamingPolicy.aliasName_of_resolve started.identity named
  exact ⟨d.writer.cluster, old, aliases, carried, fresh, cutOver⟩

/-- **What becomes of the aliases** of the one index `o` in service, in a run that goes live. -/
theorem aliases_kept {o : String} (inService : c.carriers policy.base = [o])
    (hs : start MemoryCluster.cluster policy now tuning payload options c = .ok s)
    (calls : List Call)
    (closed : close MemoryCluster.cluster true (carryOut MemoryCluster.cluster calls s) =
      .ok summary v)
    (switched : summary.outcome.isSwitched = true) :
    let index := s.lifecycle.identity.index
    (index ≠ o → ∀ b filter, (c.aliasesOf o).get? b = some filter →
      (v.writer.cluster.aliasesOf index).get? b = some filter) ∧
    (index = o → s.lifecycle.created = true ∧ options.lifecycle.deleteRequested = true ∧
      v.writer.cluster.aliasesOf index = (∅ : Aliases).insert policy.base none) := by
  intro index
  obtain ⟨u, old, aliases, carried, fresh, cutOver⟩ := cutOver_of_close hs calls closed switched
  rw [Lifecycle.carriers_of_start inService aliases] at carried
  by_cases remade : s.lifecycle.created = true ∧ index = o
  · -- nothing was in service when the alias was decided on
    rw [if_pos remade] at carried
    obtain rfl : old = none := Option.toList_eq_nil_iff.1 carried.symm
    obtain ⟨created, own⟩ := remade
    refine ⟨fun other => absurd own other, fun _ => ⟨created, ?_, ?_⟩⟩
    · obtain ⟨l, v₀, hl, rfl⟩ := ofLifecycle_of_start hs
      obtain ⟨-, asked, -⟩ := (Lifecycle.startedInMemory_of_ok hl).made created
      obtain ⟨ix, found, -⟩ := MemoryCluster.get?_of_mem_carriers
        (show index ∈ c.carriers policy.base from own ▸ inService ▸ List.mem_singleton_self o)
      exact asked (Dict.contains_iff.2 ⟨ix, found⟩)
    · have bare : u.aliasesOf index = ∅ := (aliases _).trans (if_pos ⟨created, rfl⟩)
      refine Dict.ext_get? fun b => (cutOver.received b).trans ?_
      rw [bare, Dict.get?_empty, Lifecycle.moving]
      simp
  · rw [if_neg remade] at carried
    obtain rfl : old = some o := Option.toList_eq_singleton_iff.1 carried.symm
    refine ⟨fun other b filter given => ?_, fun own => absurd (congrArg some own.symm) fresh⟩
    have moved : Lifecycle.moving u policy.base (some o) = c.aliasesOf o :=
      (aliases o).trans (if_neg remade)
    refine (cutOver.received b).trans ?_
    rw [moved, given]
    rfl

/-- An index in service, with one alias that has a filter and one that has none. -/
def shelved (index : String) : MemoryCluster :=
  ({} : MemoryCluster).seed index (.ofList [("books", none), ("shelf", some .null)]) ∅

/-- The run writes into a new index, and both aliases go over. -/
theorem aliases_kept_shelf :
    let cluster := MemoryCluster.cluster
    let policy : NamingPolicy := ⟨"books", some ⟨"'2'", [.literal ['2']]⟩, false⟩
    let calls : List Call := [.add ⟨.index, "a", some "1"⟩]
    ∃ s summary v, (shelved "books1").carriers policy.base = ["books1"] ∧
      start cluster policy ⟨0, 0⟩ {} ⟨.null, .null⟩ {} (shelved "books1") = .ok s ∧
      close cluster true (carryOut cluster calls s) = .ok summary v ∧
        summary.outcome.isSwitched = true ∧
      (v.writer.cluster.aliasesOf "books2").get? "shelf" = some (some .null) := by
  intro cluster policy calls
  let l : Lifecycle := ⟨.behind "books" "books2", {}, {}, .ensured, true⟩
  have inService : (shelved "books1").carriers policy.base = ["books1"] := by decide +kernel
  have started : start cluster policy ⟨0, 0⟩ {} ⟨.null, .null⟩ {} (shelved "books1") = .ok
    (ofLifecycle l {} _) :=
    start_of_lifecycle (eq_ok_of_answer (by decide +kernel))
  generalize hs : ofLifecycle l _ _ = s at started
  have closed : answer? (close cluster true (carryOut cluster calls s)) = some
      { aliasName := some "books", index := "books2", created := true,
        counters := { succeeded := 1 }, failed := false, drained := true, outcome :=
          .switched "books" (some "books1") "books2" ["books", "shelf"] } := by
    rw [← hs]
    decide +kernel
  have closed := eq_ok_of_answer closed
  have index : s.lifecycle.identity.index = "books2" := by rw [← hs]; rfl
  have kept := (aliases_kept inService started calls closed rfl).1 (by rw [index]; decide) "shelf"
    (some .null)
    (by decide +kernel)
  rw [index] at kept
  exact ⟨s, _, _, inService, started, closed, rfl, kept⟩

/-- **An alias is lost**: the index in service is the one that the run deletes and makes again. -/
theorem aliases_lost_shelf :
    let cluster := MemoryCluster.cluster
    let policy : NamingPolicy := ⟨"books", some ⟨"'2'", [.literal ['2']]⟩, false⟩
    let options : SessionOptions := { lifecycle := { deleteRequested := true } }
    let calls : List Call := [.add ⟨.index, "a", some "1"⟩]
    ∃ s summary v, (shelved "books2").carriers policy.base = ["books2"] ∧
      start cluster policy ⟨0, 0⟩ {} ⟨.null, .null⟩ options (shelved "books2") = .ok s ∧
      s.lifecycle.identity.index = "books2" ∧
      close cluster true (carryOut cluster calls s) = .ok summary v ∧
        summary.outcome.isSwitched = true ∧
      ((shelved "books2").aliasesOf "books2").get? "shelf" = some (some .null) ∧
      (v.writer.cluster.aliasesOf "books2").get? "shelf" = none := by
  intro cluster policy options calls
  let l : Lifecycle := ⟨.behind "books" "books2", {}, options.lifecycle, .ensured, true⟩
  have started : start cluster policy ⟨0, 0⟩ {} ⟨.null, .null⟩ options (shelved "books2") = .ok
    (ofLifecycle l {} _) :=
    start_of_lifecycle (eq_ok_of_answer (by decide +kernel))
  generalize hs : ofLifecycle l _ _ = s at started
  have closed : answer? (close cluster true (carryOut cluster calls s)) = some
      { aliasName := some "books", index := "books2", created := true,
        counters := { succeeded := 1 }, failed := false, drained := true, outcome :=
          .switched "books" none "books2" ["books"] } := by
    rw [← hs]
    decide +kernel
  have lost : ((stateAfter (close cluster true (carryOut cluster calls s))).writer.cluster.aliasesOf
    "books2").get?
      "shelf" = none := by
    rw [← hs]
    decide +kernel
  exact ⟨s, _, _,
    by decide +kernel, started, by rw [← hs]; rfl, eq_ok_of_answer closed, rfl, by decide +kernel, lost⟩

end Session

end Reindex
