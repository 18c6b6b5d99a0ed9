import Reindex.Proofs.Lifecycle.InMemory

/-!
# Starts that fail

On the cluster in memory a start fails in four ways: the name of the index cannot be resolved, an
index to be updated is missing, or the cluster is unwell, which is noticed last, when the index was
found or when it was made. A start that fails does no harm in the first three of them. In the fourth
an index that was to be deleted has been deleted.

Main statements: `Lifecycle.failedStart_of_error` takes a start that failed apart, and
`Lifecycle.spared_of_failed_start` says which indices it spared.
-/

namespace Reindex

namespace MemoryCluster

/-- The cluster with an index made afresh, in place of any older one. -/
def withFresh (c : MemoryCluster) (index : String) (tuning : Tuning) (payload : IndexPayload) :
    MemoryCluster :=
  { c with indices := c.indices.insert index (.fresh (managedSettings payload.settings tuning) payload.mappings) }

theorem get?_withFresh (c : MemoryCluster) (index : String) (tuning : Tuning) (payload : IndexPayload) (key : String) :
    (c.withFresh index tuning payload).indices.get? key =
      if index = key then some (.fresh (managedSettings payload.settings tuning) payload.mappings)
      else c.indices.get? key := by
  unfold withFresh
  rw [Dict.get?_insert]

/-- An index that is not there can be made and refreshed. -/
theorem made_of_absent {c : MemoryCluster} {index : String}
    (absent : c.indices.contains index = false) (settings mappings : Json) :
    ∃ u, createIndex index settings mappings c = .ok () u ∧
      refreshIndex index u = .ok ()
        { c with indices := c.indices.insert index (.fresh settings mappings) } := by
  let born : MemoryIndex :=
    { settings, mappings, replicas := replicasOf settings,
      refreshInterval := refreshIntervalOf settings }
  refine ⟨{ c with indices := c.indices.insert index born }, ?_, ?_⟩
  · unfold createIndex
    rw [if_neg (by simp [absent])]
  · have twice : (c.indices.insert index born).insert index (.fresh settings mappings) =
        c.indices.insert index (.fresh settings mappings) := by
      refine Dict.ext_get? fun key => ?_
      simp only [Dict.get?_insert]
      by_cases hk : index = key <;> simp [hk]
    unfold refreshIndex change
    simp only [Dict.get?_insert, if_true]
    rw [← twice]
    rfl

end MemoryCluster

namespace Lifecycle

open MemoryCluster (cluster)

variable {policy : NamingPolicy} {now : Instant} {tuning : Tuning} {payload : IndexPayload}
    {options : LifecycleOptions} {index : String} {c v : MemoryCluster} {e : Error}

/-! ## The steps of a start -/

/-- What making sure of an index comes to. -/
theorem ensureIndex_memory (index : String) (tuning : Tuning) (payload : IndexPayload)
    (options : LifecycleOptions) (c : MemoryCluster) :
    ensureIndex cluster index tuning payload options c =
      if options.updateMode then if c.indices.contains index then .ok false c
      else .error (.indexNotFound index) c
      else if c.indices.contains index && !options.deleteRequested then .ok false c
      else .ok true (c.withFresh index tuning payload) := by
  let settings := managedSettings payload.settings tuning
  have looked : call (cluster.indexExists index) c = .ok (c.indices.contains index) c := rfl
  have making : ∀ d : MemoryCluster, d.indices.contains index = false → (do
      call (cluster.createIndex index settings payload.mappings)
      call (cluster.refreshIndex index)
      return true : EStateM Error MemoryCluster Bool) d = .ok true
        (d.withFresh index tuning payload) := by
    intro d absent
    obtain ⟨u, created, refreshed⟩ := MemoryCluster.made_of_absent absent settings payload.mappings
    rw [bind_of_ok (call_of_ok (show cluster.createIndex index settings payload.mappings d = _ from created)),
      bind_of_ok (call_of_ok (show cluster.refreshIndex index u = _ from refreshed))]
    rfl
  unfold ensureIndex
  rw [bind_of_ok looked]
  by_cases mode : options.updateMode = true
  · simp only [mode, if_true]
    by_cases there : c.indices.contains index = true
    · simp only [there, if_true]
      rfl
    · simp only [there]
      rfl
  · simp only [mode]
    cases there : c.indices.contains index with
    | false => exact making c there
    | true =>
      by_cases asked : options.deleteRequested = true
      · have deleted : call (cluster.deleteIndex index) c = .ok ()
          { c with indices := c.indices.erase index } := by
          refine call_of_ok ?_
          show MemoryCluster.deleteIndex index c = _
          unfold MemoryCluster.deleteIndex
          rw [if_pos there]
        have gone : (c.indices.erase index).contains index = false := by
          simp [Dict.contains_eq, Dict.get?_erase]
        have same : ({ c with indices := c.indices.erase index } : MemoryCluster).withFresh index tuning payload =
            c.withFresh index tuning payload := by
          unfold MemoryCluster.withFresh
          congr 1
          refine Dict.ext_get? fun key => ?_
          simp only [Dict.get?_insert, Dict.get?_erase]
          by_cases hk : index = key <;> simp [hk]
        simp only [asked]
        refine (bind_of_ok deleted _).trans ((making _ gone).trans ?_)
        rw [same]
        rfl
      · simp only [asked]
        rfl

theorem awaitHealth_memory (options : LifecycleOptions) (c : MemoryCluster) :
    awaitHealth cluster options c =
      if c.health.worse .yellow then .error (.clusterUnhealthy c.health options.healthTimeout) c
        else .ok () c := by
  unfold awaitHealth
  rw [bind_of_ok (show call (cluster.waitForHealth .yellow options.healthTimeout) c =
    .ok ⟨c.health.worse .yellow, c.health⟩ c from rfl)]
  by_cases unwell : c.health.worse .yellow = true
  · simp only [unwell, if_true]
    rfl
  · simp only [unwell]
    rfl

/-! ## A start that failed -/

/-- How a start on the cluster in memory fails, and what it leaves. -/
inductive FailedStart (policy : NamingPolicy) (now : Instant) (tuning : Tuning)
    (payload : IndexPayload) (options : LifecycleOptions) (c : MemoryCluster) :
    Error → MemoryCluster → Prop
  | unresolved {e : Error} (refused : policy.resolve cluster now c = .error e c) :
      FailedStart policy now tuning payload options c e c
  | missing {identity : Identity} (resolved : policy.resolve cluster now c = .ok identity c)
      (mode : options.updateMode = true) (absent : ¬ c.Present identity.index) :
      FailedStart policy now tuning payload options c (.indexNotFound identity.index) c
  | unwell {identity : Identity} (resolved : policy.resolve cluster now c = .ok identity c)
      (left : options.updateMode = true ∨ options.deleteRequested = false)
      (there : c.Present identity.index) (worse : c.health.worse .yellow = true) :
      FailedStart policy now tuning payload options c
        (.clusterUnhealthy c.health options.healthTimeout) c
  | unwellMade {identity : Identity} (resolved : policy.resolve cluster now c = .ok identity c)
      (mode : options.updateMode = false) (asked : c.Present identity.index →
        options.deleteRequested = true)
      (worse : c.health.worse .yellow = true) :
      FailedStart policy now tuning payload options c
        (.clusterUnhealthy c.health options.healthTimeout)
        (c.withFresh identity.index tuning payload)

theorem eq_of_resolve_error (h : policy.resolve cluster now c = .error e v) : v = c := by
  have kept : Keeps (· = c) (policy.resolve cluster now) := by
    unfold NamingPolicy.resolve
    split
    · exact .ofExcept _
    · exact Keeps.bind (fun _ h => h) fun table => .ofExcept _
  exact kept.of_error rfl h

/-- **A start that failed**, by the step at which it did. -/
theorem failedStart_of_error (h : start cluster policy now tuning payload options c = .error e v) :
    FailedStart policy now tuning payload options c e v := by
  unfold start at h
  cases resolved : policy.resolve cluster now c with
  | error e' u =>
    rw [bind_of_error resolved] at h
    cases h
    obtain rfl := eq_of_resolve_error resolved
    exact .unresolved resolved
  | ok identity u =>
    obtain rfl := eq_of_resolve resolved
    have ensured := ensureIndex_memory identity.index tuning payload options u
    rw [bind_of_ok resolved] at h
    -- behind the index the cluster is waited for, and `h` says that it was found unwell
    have waited : ∀ created d,
      ensureIndex cluster identity.index tuning payload options u = .ok created d →
        d.health.worse .yellow = true ∧ e = .clusterUnhealthy d.health options.healthTimeout ∧
          v = d := by
      intro created d ready
      rw [bind_of_ok ready] at h
      have health := awaitHealth_memory options d
      by_cases worse : d.health.worse .yellow = true
      · rw [if_pos worse] at health
        rw [bind_of_error health] at h
        cases h
        exact ⟨worse, rfl, rfl⟩
      · rw [if_neg worse] at health
        rw [bind_of_ok health] at h
        cases h
    by_cases mode : options.updateMode = true
    · rw [if_pos mode] at ensured
      by_cases there : u.indices.contains identity.index = true
      · rw [if_pos there] at ensured
        obtain ⟨worse, rfl, rfl⟩ := waited _ _ ensured
        exact .unwell resolved (.inl mode) there worse
      · rw [if_neg there] at ensured
        rw [bind_of_error ensured] at h
        cases h
        exact .missing resolved mode there
    · rw [if_neg mode] at ensured
      by_cases left : (u.indices.contains identity.index && !options.deleteRequested) = true
      · rw [if_pos left] at ensured
        obtain ⟨worse, rfl, rfl⟩ := waited _ _ ensured
        simp only [Bool.and_eq_true, Bool.not_eq_true'] at left
        exact .unwell resolved (.inr left.2) left.1 worse
      · rw [if_neg left] at ensured
        obtain ⟨worse, rfl, rfl⟩ := waited _ _ ensured
        refine .unwellMade resolved (Bool.eq_false_iff.2 mode) (fun there => ?_) worse
        have there : u.indices.contains identity.index = true := there
        simpa [there] using left

/-! ## What it spared -/

/-- The index is the one that a start deletes and makes again before it finds the cluster unwell. -/
structure MadeInVain (policy : NamingPolicy) (now : Instant) (options : LifecycleOptions)
    (c : MemoryCluster) (index : String) : Prop where
  own : ∃ identity, policy.resolve cluster now c = .ok identity c ∧ identity.index = index
  mode : options.updateMode = false
  asked : options.deleteRequested = true
  unwell : c.health.worse .yellow = true

/-- **A start that failed spared** every index with all that it holds, but one that was to be
deleted: that one was made afresh when the cluster was found unwell. Nothing else of the cluster
changed. -/
theorem spared_of_failed_start
    (h : start cluster policy now tuning payload options c = .error e v) :
    v = { c with indices := v.indices } ∧
      ∀ key ix, c.indices.get? key = some ix →
        (¬ MadeInVain policy now options c key → v.indices.get? key = some ix) ∧
        (MadeInVain policy now options c key →
          e = .clusterUnhealthy c.health options.healthTimeout ∧
          v.indices.get? key =
            some (.fresh (managedSettings payload.settings tuning) payload.mappings)) := by
  cases failedStart_of_error h with
  | unresolved refused =>
    refine ⟨rfl, fun key ix there => ⟨fun _ => there, fun vain => ?_⟩⟩
    obtain ⟨identity, resolved, -⟩ := vain.own
    rw [refused] at resolved
    cases resolved
  | missing resolved mode absent =>
    refine ⟨rfl, fun key ix there => ⟨fun _ => there, fun vain => ?_⟩⟩
    rw [vain.mode] at mode
    cases mode
  | unwell resolved left present worse =>
    refine ⟨rfl, fun key ix there => ⟨fun _ => there, fun vain => ?_⟩⟩
    rcases left with mode | spared
    · rw [vain.mode] at mode
      cases mode
    · rw [vain.asked] at spared
      cases spared
  | @unwellMade identity resolved mode asked worse =>
    refine ⟨rfl, fun key ix there => ?_⟩
    rw [MemoryCluster.get?_withFresh]
    by_cases own : identity.index = key
    · subst own
      have requested := asked (Dict.contains_iff.2 ⟨ix, there⟩)
      exact ⟨fun spared => absurd ⟨⟨identity, resolved, rfl⟩, mode, requested, worse⟩ spared,
        fun _ => ⟨rfl, if_pos rfl⟩⟩
    · refine ⟨fun _ => by rw [if_neg own]; exact there, fun vain => ?_⟩
      obtain ⟨identity', resolved', own'⟩ := vain.own
      rw [resolved] at resolved'
      cases resolved'
      exact absurd own' own

/-- A cluster that is unwell, with an index in service that holds a document. -/
def ailing : MemoryCluster :=
  { ({} : MemoryCluster).seed "books1" (.ofList [("books", none)]) (.ofList [("a", "1")])
    with health := .red }

/-- The new index was made for nothing, and the index in service is what it was. -/
theorem spared_of_failed_start_books :
    let policy : NamingPolicy := ⟨"books", some ⟨"'2'", [.literal ['2']]⟩, false⟩
    let options : LifecycleOptions := { deleteRequested := true }
    ∃ e v, start cluster policy ⟨0, 0⟩ {} ⟨.null, .null⟩ options ailing = .error e v ∧
      v.indices.keys = ["books1", "books2"] ∧
        v.indices.get? "books1" = ailing.indices.get? "books1" := by
  intro policy options
  let r := start cluster policy ⟨0, 0⟩ {} ⟨.null, .null⟩ options ailing
  have keys : (stateAfter r).indices.keys = ["books1", "books2"] := by decide +kernel
  have failed : worked r = false := by decide +kernel
  cases h : r with
  | ok l v =>
    rw [h] at failed
    cases failed
  | error e v =>
    rw [h] at keys
    obtain ⟨ix, there⟩ : ∃ ix, ailing.indices.get? "books1" = some ix :=
      Option.isSome_iff_exists.1 (by decide +kernel)
    have spared :=
      ((spared_of_failed_start (show start .. = .error e v from h)).2 "books1" ix there).1
    refine ⟨e, v, h, keys, (spared fun vain => ?_).trans there.symm⟩
    obtain ⟨identity, resolved, own⟩ := vain.own
    have minted : (answer? (policy.resolve cluster ⟨0, 0⟩ ailing)).map (·.index) =
      some "books2" := by decide +kernel
    rw [resolved] at minted
    have same : identity.index = "books2" := Option.some.inj minted
    rw [own] at same
    exact absurd same (by decide)

/-- The index in service lost its document and its alias, for the start that was to make it anew
found the cluster unwell only after it had deleted it. -/
theorem start_deletes_before_health :
    let policy : NamingPolicy := ⟨"books", some ⟨"'1'", [.literal ['1']]⟩, false⟩
    let options : LifecycleOptions := { deleteRequested := true }
    ¬ (∀ e v, start cluster policy ⟨0, 0⟩ {} ⟨.null, .null⟩ options ailing = .error e v →
      ∀ key ix, ailing.indices.get? key = some ix →
        ∃ ix', v.indices.get? key = some ix' ∧ ix'.docs = ix.docs ∧ ix'.aliases = ix.aliases) := by
  intro policy options spared
  let r := start cluster policy ⟨0, 0⟩ {} ⟨.null, .null⟩ options ailing
  have held : (ailing.indices.get? "books1").map (·.docs.keys) = some ["a"] := by decide +kernel
  have lost : ((stateAfter r).indices.get? "books1").map (·.docs.keys) = some [] := by
    decide +kernel
  have failed : worked r = false := by decide +kernel
  cases h : r with
  | ok l v =>
    rw [h] at failed
    cases failed
  | error e v =>
    rw [h] at lost
    obtain ⟨ix, there, keys⟩ := Option.map_eq_some_iff.1 held
    obtain ⟨ix', left, docs, -⟩ := spared e v h "books1" ix there
    rw [show stateAfter (.error e v) = v from rfl, left, Option.map_some, docs, keys] at lost
    exact absurd lost (by decide)

end Lifecycle

end Reindex
