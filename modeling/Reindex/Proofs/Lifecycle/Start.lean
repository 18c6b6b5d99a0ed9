import Reindex.Lifecycle

/-!
# How a run starts

A run resolves the name of its index, makes sure of the index and waits for the cluster. It finds
the index there and leaves it, or creates it, or deletes it and creates it again.

Main statements: `Lifecycle.started_of_ok` takes a start that worked apart, and
`Lifecycle.keeps_starting` says what no start destroys, whether it works or not.
-/

namespace Reindex

variable {σ τ : Type}

/-! ## The name -/

namespace NamingPolicy

theorem eq_of_mint {policy : NamingPolicy} {window : TimeWindow} {now : Instant}
    {identity : Identity} (h : policy.mint window now = .ok identity) :
    identity = .behind policy.base (policy.base ++ window.render now) := by
  unfold mint at h
  dsimp only at h
  cases hc : checkName (policy.base ++ window.render now) with
  | error e =>
    rw [hc] at h
    cases h
  | ok a =>
    rw [hc] at h
    cases h
    rfl

/-- The alias of a run is its base name. -/
theorem aliasName_of_resolve {policy : NamingPolicy} {cluster : Cluster σ τ} {now : Instant}
    {identity : Identity} {s v : σ} (h : policy.resolve cluster now s = .ok identity v)
    {aliasName : String} (ha : identity.aliasName = some aliasName) : aliasName = policy.base := by
  unfold resolve at h
  cases hm : policy.minting? with
  | some window =>
    rw [hm] at h
    obtain ⟨minted, -⟩ := ofExcept_eq_ok h
    rw [eq_of_mint minted] at ha
    exact (Option.some.inj ha).symm
  | none =>
    rw [hm] at h
    obtain ⟨table, u, -, h⟩ := bind_eq_ok h
    obtain ⟨picked, -⟩ := ofExcept_eq_ok h
    rcases (pickCandidate_eq_ok_iff _ _ _).1 picked with ⟨-, rfl⟩ | ⟨only, -, rfl⟩
    · cases ha
    · exact (Option.some.inj ha).symm

end NamingPolicy

/-! ## What a start does not destroy -/

/-- No call that a run starts with destroys the property. -/
structure Cluster.Prepares (cluster : Cluster σ τ) (P : σ → Prop) : Prop where
  indexExists : ∀ index, Keeps P (cluster.indexExists index)
  createIndex : ∀ index settings mappings, Keeps P (cluster.createIndex index settings mappings)
  deleteIndex : ∀ index, Keeps P (cluster.deleteIndex index)
  refreshIndex : ∀ index, Keeps P (cluster.refreshIndex index)
  waitForHealth : ∀ least timeout, Keeps P (cluster.waitForHealth least timeout)
  aliases : ∀ lookup, Keeps P (cluster.aliases lookup)

namespace Lifecycle

variable {cluster : Cluster σ τ} {P : σ → Prop} {policy : NamingPolicy} {now : Instant}
    {index : String} {tuning : Tuning} {payload : IndexPayload} {options : LifecycleOptions}

theorem keeps_resolve (aliases : ∀ lookup, Keeps P (cluster.aliases lookup)) :
    Keeps P (policy.resolve cluster now) := by
  unfold NamingPolicy.resolve
  split
  · exact .ofExcept _
  · exact .bind (aliases _).call fun table => .ofExcept _

theorem keeps_ensureIndex (hP : cluster.Prepares P) :
    Keeps P (ensureIndex cluster index tuning payload options) := by
  have create : Keeps P (do
      call (cluster.createIndex index (managedSettings payload.settings tuning) payload.mappings)
      call (cluster.refreshIndex index)
      return true : EStateM Error σ Bool) :=
    .bind (hP.createIndex _ _ _).call fun _ => .bind (hP.refreshIndex _).call fun _ => .pure true
  unfold ensureIndex
  refine .bind (hP.indexExists index).call fun found => ?_
  split
  · split
    · exact .pure false
    · exact .throw _
  · split
    · exact .pure false
    · split
      · exact .bind (hP.deleteIndex index).call fun _ => create
      · exact create

theorem keeps_awaitHealth (waits : ∀ least timeout, Keeps P (cluster.waitForHealth least timeout)) :
    Keeps P (awaitHealth cluster options) := by
  unfold awaitHealth
  refine .bind (waits _ _).call fun report => ?_
  split
  · exact .throw _
  · exact .pure ()

/-- **A start keeps** what its calls keep. -/
theorem keeps_starting (hP : cluster.Prepares P) :
    Keeps P (start cluster policy now tuning payload options) := by
  unfold start
  exact .bind (keeps_resolve hP.aliases) fun identity => .bind (keeps_ensureIndex hP) fun created =>
    .bind (keeps_awaitHealth hP.waitForHealth) fun _ => .pure _

/-! ## A start that worked -/

/-- How the index of a run came to be there: it was found and is left as it is, or it is made,
perhaps in place of one that was found. The flag says whether it was made. -/
inductive Ensured (cluster : Cluster σ τ) (index : String) (tuning : Tuning)
    (payload : IndexPayload) (options : LifecycleOptions) : σ → Bool → σ → Prop
  | found {s v : σ} (there : cluster.indexExists index s = .ok true v)
      (left : options.updateMode = true ∨ options.deleteRequested = false) :
      Ensured cluster index tuning payload options s false v
  | made {s t u v : σ} (absent : cluster.indexExists index s = .ok false t)
      (mode : options.updateMode = false)
      (create :
        cluster.createIndex index (managedSettings payload.settings tuning) payload.mappings t =
          .ok () u)
      (refresh : cluster.refreshIndex index u = .ok () v) :
      Ensured cluster index tuning payload options s true v
  | remade {s r t u v : σ} (there : cluster.indexExists index s = .ok true r)
      (mode : options.updateMode = false)
      (asked : options.deleteRequested = true) (delete : cluster.deleteIndex index r = .ok () t)
      (create :
        cluster.createIndex index (managedSettings payload.settings tuning) payload.mappings t =
          .ok () u)
      (refresh : cluster.refreshIndex index u = .ok () v) :
      Ensured cluster index tuning payload options s true v

theorem ensured_of_ok {s v : σ} {created : Bool}
    (h : ensureIndex cluster index tuning payload options s = .ok created v) :
    Ensured cluster index tuning payload options s created v := by
  have making : ∀ t, (do
      call (cluster.createIndex index (managedSettings payload.settings tuning) payload.mappings)
      call (cluster.refreshIndex index)
      return true : EStateM Error σ Bool) t = .ok created v → created = true ∧
        ∃ u, cluster.createIndex index (managedSettings payload.settings tuning) payload.mappings
          t = .ok () u ∧
          cluster.refreshIndex index u = .ok () v := by
    intro t h
    obtain ⟨⟨⟩, u, hc, h⟩ := bind_eq_ok h
    obtain ⟨⟨⟩, w, hr, h⟩ := bind_eq_ok h
    cases h
    exact ⟨rfl, u, call_eq_ok hc, call_eq_ok hr⟩
  unfold ensureIndex at h
  obtain ⟨found, u, hfound, h⟩ := bind_eq_ok h
  have looked := call_eq_ok hfound
  by_cases hm : options.updateMode = true
  · rw [if_pos hm] at h
    cases found with
    | true =>
      cases h
      exact .found looked (.inl hm)
    | false => cases h
  · rw [if_neg hm] at h
    have mode := Bool.eq_false_iff.2 hm
    cases found with
    | false =>
      obtain ⟨rfl, w, create, refresh⟩ := making u h
      exact .made looked mode create refresh
    | true =>
      by_cases hd : options.deleteRequested = true
      · simp only [hd] at h
        obtain ⟨⟨⟩, t, deleted, h⟩ := bind_eq_ok h
        obtain ⟨rfl, w, create, refresh⟩ := making t h
        exact .remade looked mode hd (call_eq_ok deleted) create refresh
      · simp only [Bool.eq_false_iff.2 hd] at h
        cases h
        exact .found looked (.inr (Bool.eq_false_iff.2 hd))

/-- A start that worked, step by step. -/
structure Started (cluster : Cluster σ τ) (policy : NamingPolicy) (now : Instant) (tuning : Tuning)
    (payload : IndexPayload) (options : LifecycleOptions) (s : σ) (l : Lifecycle) (v : σ) :
    Prop where
  steps : ∃ t u, policy.resolve cluster now s = .ok l.identity t ∧
    Ensured cluster l.identity.index tuning payload options t l.created u ∧
      awaitHealth cluster options u = .ok () v
  tuning : l.tuning = tuning
  options : l.options = options
  state : l.state = .ensured

/-- **A start that worked** resolved the name, made sure of the index and found the cluster well. -/
theorem started_of_ok {s v : σ} {l : Lifecycle}
    (h : start cluster policy now tuning payload options s = .ok l v) :
    Started cluster policy now tuning payload options s l v := by
  unfold start at h
  obtain ⟨identity, t, resolved, h⟩ := bind_eq_ok h
  obtain ⟨created, u, ensured, h⟩ := bind_eq_ok h
  obtain ⟨⟨⟩, w, awaited, h⟩ := bind_eq_ok h
  cases h
  exact ⟨⟨t, u, resolved, ensured_of_ok ensured, awaited⟩, rfl, rfl, rfl⟩

end Lifecycle

end Reindex
