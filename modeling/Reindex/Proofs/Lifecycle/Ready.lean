import Reindex.Proofs.Lifecycle.FailedStart
import Reindex.Proofs.Lifecycle.Merging

/-!
# What a start guarantees

On the cluster in memory a start works if and only if the name can be resolved, the cluster is well,
and the index is there if it is to be updated. Behind a start that worked the index is there. It was
made if the run does not update one and the old one is to be replaced or there is none; then it is
new, its settings are those that were asked for with the managed ones merged into them, and all else
is as it was.

Main statement: `Lifecycle.start_makes_ready`.
-/

namespace Reindex

theorem Health.worse_yellow {health : Health} :
    health.worse .yellow = false ↔ health = .yellow ∨ health = .green := by
  cases health <;> decide

/-- An index that holds nothing yet: it was made with these settings and mappings, and refreshed
once. -/
structure MemoryIndex.New (ix : MemoryIndex) (settings mappings : Json) : Prop where
  docs : ix.docs = ∅
  aliases : ix.aliases = ∅
  refreshCount : ix.refreshCount = 1
  settings : ix.settings = settings
  mappings : ix.mappings = mappings
  /-- Its number of replicas and its refresh interval are those that its settings ask for. -/
  effective : ix.replicas = replicasOf ix.settings ∧
    ix.refreshInterval = refreshIntervalOf ix.settings

theorem MemoryIndex.new_fresh (settings mappings : Json) :
    (MemoryIndex.fresh settings mappings).New settings mappings :=
  ⟨rfl, rfl, rfl, rfl, rfl, rfl, rfl⟩

namespace Lifecycle

open MemoryCluster (cluster)

variable {policy : NamingPolicy} {now : Instant} {tuning : Tuning} {payload : IndexPayload}
    {options : LifecycleOptions} {c v : MemoryCluster} {l : Lifecycle}

/-- What a start needs to work. -/
structure Startable (policy : NamingPolicy) (now : Instant) (options : LifecycleOptions)
    (c : MemoryCluster) (identity : Identity) : Prop where
  resolved : policy.resolve cluster now c = .ok identity c
  well : c.health.worse .yellow = false
  updatable : options.updateMode = true → c.Present identity.index

/-- What a start that worked guarantees. -/
structure Ready (policy : NamingPolicy) (now : Instant) (tuning : Tuning) (payload : IndexPayload)
    (options : LifecycleOptions) (c : MemoryCluster) (l : Lifecycle) (v : MemoryCluster) :
    Prop where
  identity : policy.resolve cluster now c = .ok l.identity c
  state : l.state = .ensured
  well : v.health = .yellow ∨ v.health = .green
  present : v.Present l.identity.index
  created : l.created = true ↔
    options.updateMode = false ∧ (options.deleteRequested = true ∨ ¬ c.Present l.identity.index)
  /-- An index that was made is new, and nothing else changed. -/
  made : l.created = true →
    (∃ ix, v.indices.get? l.identity.index = some ix ∧
      ix.New (managedSettings payload.settings tuning) payload.mappings) ∧
    (∀ other, other ≠ l.identity.index → v.indices.get? other = c.indices.get? other) ∧
    v = { c with indices := v.indices }
  /-- The settings of an index that was made are those of the payload, with the managed ones merged
  into them. -/
  merged : l.created = true → ListedSettings payload.settings →
    ∃ ix, v.indices.get? l.identity.index = some ix ∧ Merged payload.settings tuning ix.settings
  left : l.created = false → v = c

theorem startable_of_ok (h : start cluster policy now tuning payload options c = .ok l v) :
    Startable policy now options c l.identity := by
  have started := startedInMemory_of_ok h
  refine ⟨started.identity, started.well, fun mode => ?_⟩
  cases created : l.created with
  | false => exact (started.left created).2.1
  | true =>
    have other := (started.made created).1
    rw [mode] at other
    cases other

/-- No start fails that has what it needs. -/
theorem ok_of_startable {identity : Identity} (able : Startable policy now options c identity)
    (tuning : Tuning) (payload : IndexPayload) :
    ∃ l v, start cluster policy now tuning payload options c = .ok l v := by
  cases h : start cluster policy now tuning payload options c with
  | ok l v => exact ⟨l, v, rfl⟩
  | error e v =>
    cases failedStart_of_error h with
    | unresolved refused => cases able.resolved.symm.trans refused
    | missing resolved mode absent =>
      cases able.resolved.symm.trans resolved
      exact absurd (able.updatable mode) absent
    | unwell _ _ _ worse => cases able.well.symm.trans worse
    | unwellMade _ _ _ worse => cases able.well.symm.trans worse

/-- An index is made where none is to be kept. -/
theorem created_iff (started : StartedInMemory policy now tuning payload options c l v) :
    l.created = true ↔
      options.updateMode = false ∧
      (options.deleteRequested = true ∨ ¬ c.Present l.identity.index) := by
  constructor
  · intro created
    obtain ⟨mode, replaced, -⟩ := started.made created
    by_cases there : c.Present l.identity.index
    · exact ⟨mode, .inl (replaced there)⟩
    · exact ⟨mode, .inr there⟩
  · rintro ⟨mode, asked⟩
    cases created : l.created with
    | true => rfl
    | false =>
      obtain ⟨-, there, kept⟩ := started.left created
      rw [mode] at kept
      rcases asked with asked | absent
      · rw [asked] at kept
        simp at kept
      · exact absurd there absent

theorem ready_of_ok (h : start cluster policy now tuning payload options c = .ok l v) :
    Ready policy now tuning payload options c l v := by
  have started := startedInMemory_of_ok h
  have same : v.health = c.health := by rw [indices_of_start started]
  have fresh (created : l.created = true) : v.indices.get? l.identity.index =
      some (MemoryIndex.fresh (managedSettings payload.settings tuning) payload.mappings) := by
    obtain ⟨-, -, -, indices⟩ := started.made created
    exact (indices _).trans (if_pos rfl)
  exact {
    identity := started.identity
    state := started.state
    well := by
      rw [same]
      exact Health.worse_yellow.1 started.well
    present := present_of_start h
    created := created_iff started
    made := fun created => by
      obtain ⟨-, -, rest, indices⟩ := started.made created
      exact ⟨⟨_, fresh created, MemoryIndex.new_fresh _ _⟩,
        fun other ne => (indices other).trans (if_neg ne.symm), rest⟩
    merged := fun created listed =>
      ⟨_, fresh created, (merged_manageAll listed.of_members tuning).of_members⟩
    left := fun kept => (started.left kept).1 }

/-- **A start makes ready.** It works if and only if it has what it needs, and then everything is as
a run needs it. -/
theorem start_makes_ready (policy : NamingPolicy) (now : Instant) (tuning : Tuning)
    (payload : IndexPayload) (options : LifecycleOptions) (c : MemoryCluster) :
    ((∃ l v, start cluster policy now tuning payload options c = .ok l v) ↔
        ∃ identity, Startable policy now options c identity) ∧
      ∀ l v, start cluster policy now tuning payload options c = .ok l v →
        Ready policy now tuning payload options c l v :=
  ⟨⟨fun ⟨l, _, h⟩ => ⟨l.identity, startable_of_ok h⟩, fun ⟨_, able⟩ =>
    ok_of_startable able tuning payload⟩,
    fun _ _ => ready_of_ok⟩

/-- An index that holds a document behind an alias is replaced by a new one, and its neighbour is
left alone. What the payload has for the managed settings, plain and dotted, gives way to the
tuning; its own setting stays. -/
theorem start_makes_ready_replaced :
    let c := (({} : MemoryCluster).seed "books" (.ofList [("shelf", none)])
      (.ofList [("A", "1")])).seed "films" ∅
      (.ofList [("B", "2")])
    let policy : NamingPolicy := ⟨"books", none, false⟩
    let tuning : Tuning := { replicas := some 2, refreshInterval := some "10s" }
    let payload : IndexPayload := ⟨.object [("index.refresh_interval", .string "5s"),
      ("number_of_replicas", .ofNat 3), ("shards", .ofNat 4)], .object [("dynamic", .bool false)]⟩
    let options : LifecycleOptions := { deleteRequested := true }
    ∃ l v ix, start cluster policy ⟨0, 0⟩ tuning payload options c = .ok l v ∧ l.created = true ∧
      Ready policy ⟨0, 0⟩ tuning payload options c l v ∧ v.indices.get? "books" = some ix ∧
      Merged payload.settings tuning ix.settings ∧
      ix.settings.text =
        "\x7b\"number_of_replicas\":2,\"refresh_interval\":\"10s\",\"shards\":4\x7d" := by
  intro c policy tuning payload options
  let r := start cluster policy ⟨0, 0⟩ tuning payload options c
  have created : (answer? r).map (fun l => (l.created, l.identity.index)) =
    some (true, "books") := by
    decide +kernel
  obtain ⟨l, answered, was⟩ := Option.map_eq_some_iff.1 created
  obtain ⟨created, named⟩ := Prod.mk.inj was
  have h : start cluster policy ⟨0, 0⟩ tuning payload options c = .ok l (stateAfter r) :=
    eq_ok_of_answer answered
  have ready := (start_makes_ready policy ⟨0, 0⟩ tuning payload options c).2 l _ h
  have listed : ListedSettings payload.settings := {
    members := show List.Pairwise _ _ by decide +kernel
    nested := fun _ there => nomatch there }
  obtain ⟨ix, there, merged⟩ := ready.merged created listed
  rw [named] at there
  have text : ((stateAfter r).indices.get? "books").map (·.settings.text) =
      some "\x7b\"number_of_replicas\":2,\"refresh_interval\":\"10s\",\"shards\":4\x7d" := by
        decide +kernel
  rw [there] at text
  exact ⟨l, _, ix, h, created, ready, there, merged, Option.some.inj text⟩

end Lifecycle

end Reindex
