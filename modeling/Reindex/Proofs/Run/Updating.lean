import Reindex.Proofs.Cluster.Frame
import Reindex.Proofs.Cluster.Traced
import Reindex.Proofs.Lifecycle.InMemory
import Reindex.Proofs.Run.Feed
import Reindex.Proofs.Session.Bracketing

/-!
# Runs that update an index

A run that updates an index writes into one that is there. It never creates or deletes an index and
changes no settings, whatever else its configuration says and however it ends; where its index is
missing, it has only looked.

Main statements: `keeps_runWith_of_update`, by which such a run keeps what all calls but these keep,
and `update_spares`.
-/

namespace Reindex

variable {σ τ : Type}

/-- No call that a run makes which updates an index destroys the property. -/
structure Cluster.Maintains (cluster : Cluster σ τ) (P : σ → Prop) : Prop where
  carries : cluster.Carries P
  indexExists : ∀ index, Keeps P (cluster.indexExists index)
  refreshIndex : ∀ index, Keeps P (cluster.refreshIndex index)
  waitForHealth : ∀ least timeout, Keeps P (cluster.waitForHealth least timeout)
  aliases : ∀ lookup, Keeps P (cluster.aliases lookup)
  updateAliases : ∀ actions, Keeps P (cluster.updateAliases actions)
  getDocument : ∀ index id, Keeps P (cluster.getDocument index id)
  putDocument : ∀ index id body, Keeps P (cluster.putDocument index id body)

variable {cluster : Cluster σ τ} {P : σ → Prop}

/-! ## The start -/

namespace Lifecycle

variable {policy : NamingPolicy} {now : Instant} {tuning : Tuning} {payload : IndexPayload}
    {options : LifecycleOptions}

/-- An index that is updated is looked for. -/
theorem ensureIndex_of_update (mode : options.updateMode = true) (index : String) :
    ensureIndex cluster index tuning payload options =
      call (cluster.indexExists index) >>= fun found =>
        if found then pure false else throw (.indexNotFound index) := by
  unfold ensureIndex
  simp only [mode, if_true]

/-- **A start that updates** keeps what the calls of such a run keep. -/
theorem keeps_start_of_update (hm : cluster.Maintains P) (mode : options.updateMode = true) :
    Keeps P (start cluster policy now tuning payload options) := by
  unfold start
  refine .bind (keeps_resolve hm.aliases) fun identity => .bind ?_ fun created =>
    .bind (keeps_awaitHealth hm.waitForHealth) fun _ => .pure _
  rw [ensureIndex_of_update mode]
  refine .bind (hm.indexExists _).call fun found => ?_
  split
  · exact .pure false
  · exact .throw _

/-- Its index was there. -/
theorem found_of_update {s v : σ} {l : Lifecycle} (mode : options.updateMode = true)
    (h : start cluster policy now tuning payload options s = .ok l v) : l.created = false := by
  obtain ⟨_, u, -, ensured, -⟩ := (started_of_ok h).steps
  generalize l.created = created at ensured
  cases ensured with
  | found there left => rfl
  | made absent mint create refresh =>
    rw [mode] at mint
    cases mint
  | remade there mint asked delete create refresh =>
    rw [mode] at mint
    cases mint

/-- Where the index is missing, nothing comes behind the look for it. -/
theorem start_of_missing {identity : Identity} {s t u : σ} (mode : options.updateMode = true)
    (resolved : policy.resolve cluster now s = .ok identity t)
    (missing : cluster.indexExists identity.index t = .ok false u) :
    start cluster policy now tuning payload options s = .error
      (.indexNotFound identity.index) u := by
  unfold start
  rw [bind_of_ok resolved, ensureIndex_of_update mode]
  refine bind_of_error ?_ _
  rw [bind_of_ok (call_of_ok missing)]
  rfl

end Lifecycle

/-! ## The session -/

namespace Cluster.Maintains

variable {setup : WriterSetup}

/-- A writer that has no settings to manage keeps what the calls of an update keep. -/
theorem follows (hm : cluster.Maintains P) (found : setup.created = false) :
    cluster.Follows setup (.constant P) (.constant P) := by
  have unmanaged (update : SettingsUpdate) : cluster.manage setup update = pure () := by
    unfold Cluster.manage
    rw [found]
    rfl
  have still {α : Type} {x : EStateM Failure σ α} (hx : Keeps P x) : Leads P x P P := .of_keeps hx
  exact
    { carries := hm.carries
      lower := by
        rw [unmanaged]
        exact .pure () fun _ h => h
      restore := by
        rw [unmanaged]
        exact .pure () fun _ h => h
      refresh := still (hm.refreshIndex _)
      read := fun id => ⟨still (hm.getDocument _ id), still (hm.getDocument _ id)⟩
      store := fun id body => ⟨still (hm.putDocument _ id body), still (hm.putDocument _ id body)⟩
      decides :=
        { indexExists := fun _ => still (hm.indexExists _)
          aliases := fun _ => still (hm.aliases _)
          updateAliases := fun _ => still (hm.updateAliases _)
          given := fun _ h => h } }

end Cluster.Maintains

/-! ## The run -/

section Work

open Session (With)
open Writer (Under)

variable {setup : WriterSetup} {r : Regime σ}

/-- **The work of a session** keeps to a regime that holds behind failed calls, too: at its end the
window is closed. -/
theorem closed_work (hf : cluster.Follows setup r r) (config : Config) (files : Files)
    {s : Session σ τ} (hs : s.With setup (Under r)) :
    ∃ tally, (stateAfter (work cluster config files s)).writer.Closed tally r.closed := by
  have performs (c : Session.Call) : Keeps (With setup (Under r)) (Session.perform cluster c) :=
    fun s hs => (Session.leads_perform hf c).stateAfter hs
  have feeds : Keeps (With setup (Under r)) (feed cluster files config.inputFile) :=
    keeps_feed (fun op => performs (.add op)) files config.inputFile
  have closes (ending : Session.Ending) {u : Session σ τ} (hu : u.With setup (Under r)) :
      ∃ tally, (stateAfter (Session.conclude cluster ending u)).writer.Closed tally r.closed :=
    (Session.leads_conclude hf ending).stateAfter hu
  unfold work
  cases fed : feed cluster files config.inputFile s with
  | error e u =>
    have aborted := closes .abort (feeds.of_error hs fed)
    rw [Session.conclude_abort] at aborted
    exact aborted
  | ok a u =>
    dsimp only
    rw [stateAfter_adaptExcept]
    have hu := feeds.of_ok hs fed
    cases flushed : Session.flush cluster u with
    | error e v =>
      rw [bind_of_error flushed]
      have aborted := closes .abort hu
      rw [Session.conclude_abort, Session.stateAfter_abort, flushed] at aborted
      exact aborted
    | ok drained v =>
      have hv := (performs .flush).of_ok hu (bind_of_ok flushed _)
      rw [bind_of_ok flushed, ← (Session.conclude_close cluster _ v).1]
      exact closes _ hv

end Work

/-- **A run that updates an index keeps** what the calls of such a run keep. -/
theorem keeps_runWith_of_update (hm : cluster.Maintains P) {config : Config}
    (update : config.index.update = true) (files : Files) (now : Instant) :
    Keeps P (runWith cluster config files now) := by
  intro s hs
  have mode : config.sessionOptions.lifecycle.updateMode = true := update
  unfold runWith
  split
  · exact hs
  · rename_i policy named
    split
    · exact hs
    · rename_i payload loaded
      have starts : Keeps P (Lifecycle.start cluster policy now config.index.tuning payload
          config.sessionOptions.lifecycle) := Lifecycle.keeps_start_of_update hm mode
      unfold Session.start
      cases started : Lifecycle.start cluster policy now config.index.tuning payload
        config.sessionOptions.lifecycle s with
      | error e u => exact starts.of_error hs started
      | ok l u =>
        let session : Session σ τ := .ofLifecycle l config.sessionOptions.writer u
        have found : session.setup.created = false := Lifecycle.found_of_update mode started
        obtain ⟨tally, closed⟩ := closed_work (hm.follows found) config files
          (s := session) ⟨rfl, .closed ⟨rfl, starts.of_ok hs started⟩⟩
        have kept := closed.cluster
        dsimp only
        split
        · rename_i summary v ended
          rw [show work cluster config files session = .ok summary v from ended] at kept
          exact kept
        · rename_i e v ended
          rw [show work cluster config files session = .error e v from ended] at kept
          exact kept

/-! ## What it does not do -/

/-- A call that creates or deletes an index, or changes settings. -/
def ClusterCall.remakes : ClusterCall → Bool
  | .createIndex _ _ _ | .deleteIndex _ | .updateSettings _ _ => true
  | _ => false

/-- Behind a trace comes no such call. -/
def Spared (base trace : List ClusterEvent) : Prop :=
  ∃ behind, trace = base ++ behind ∧ ∀ e ∈ behind, e.call.remakes = false

theorem Spared.refl (base : List ClusterEvent) : Spared base base := ⟨[], by simp, by simp⟩

theorem Spared.append {base trace : List ClusterEvent} (h : Spared base trace) {e : ClusterEvent}
    (he : e.call.remakes = false) : Spared base (trace ++ [e]) := by
  obtain ⟨behind, rfl, all⟩ := h
  refine ⟨behind ++ [e], by simp, fun f hf => ?_⟩
  rcases List.mem_append.1 hf with hf | hf
  · exact all f hf
  · rw [List.mem_singleton.1 hf]
    exact he

theorem Cluster.traced_maintains (cluster : Cluster σ τ) (base : List ClusterEvent) :
    cluster.traced.Maintains fun w => Spared base w.trace := by
  have pass {α : Type} {call : ClusterCall} (x : EStateM Failure σ α) (h : call.remakes = false) :
      Keeps (fun w : Traced σ => Spared base w.trace) (Traced.record call x) := fun w hw =>
    (Traced.leads_record (P := Spared base) call x (fun _ ht => ht.append h) fun _ ht =>
      ht.append h).stateAfter hw
  exact
    { carries := ⟨fun _ _ _ _ h => h.append rfl, fun _ _ _ _ h => h.append rfl⟩
      indexExists := fun _ => pass _ rfl
      refreshIndex := fun _ => pass _ rfl
      waitForHealth := fun _ _ => pass _ rfl
      aliases := fun _ => pass _ rfl
      updateAliases := fun _ => pass _ rfl
      getDocument := fun _ _ => pass _ rfl
      putDocument := fun _ _ _ => pass _ rfl }

namespace MemoryCluster

/-- What an index was created with, and its settings in effect. -/
def upkeep (ix : MemoryIndex) : Json × Json × Nat × String :=
  (ix.settings, ix.mappings, ix.replicas, ix.refreshInterval)

/-- The indices of the cluster are those of another, with the same settings and mappings. -/
def SameUpkeep (c v : MemoryCluster) : Prop := ∀ index, seen upkeep index v = seen upkeep index c

theorem maintains_upkeep (c : MemoryCluster) : MemoryCluster.cluster.Maintains (SameUpkeep c) where
  carries := ⟨fun _ _ _ _ h => h, fun _ key ops v h index =>
    (seen_bulk (fun _ _ => rfl) key ops index v).trans (h index)⟩
  indexExists _ _ h := h
  refreshIndex key v h index := (seen_refreshIndex (fun _ _ => rfl) key index v).trans (h index)
  waitForHealth _ _ _ h := h
  aliases _ _ h := h
  updateAliases actions v h index := (seen_updateAliases (fun _ _ => rfl) actions index v).trans
    (h index)
  getDocument _ _ _ h := h
  putDocument key id body v h index := (seen_putDocument (fun _ _ => rfl) key id body index v).trans
    (h index)

end MemoryCluster

/-- A run whose index is missing ends there, behind the look for it. -/
theorem runWith_of_missing {config : Config} (update : config.index.update = true) {files : Files}
    {now : Instant} {policy : NamingPolicy} {payload : IndexPayload} {identity : Identity}
    {s t u : σ} (named : config.namingPolicy = .ok policy)
    (loaded : config.index.loadPayload files = .ok payload)
    (resolved : policy.resolve cluster now s = .ok identity t)
    (missing : cluster.indexExists identity.index t = .ok false u) :
    runWith cluster config files now s = .error (.index (.indexNotFound identity.index)) u := by
  unfold runWith Session.start
  rw [named, loaded]
  dsimp only
  rw [Lifecycle.start_of_missing
    (show config.sessionOptions.lifecycle.updateMode = true from update) resolved missing]

/-- **A run that updates spares the indices.** It asks its cluster to create or delete no index and
to change no settings. If its index is missing it ends before any bulk call. In memory the indices,
their settings and their mappings stay what they were, and where the index is missing everything
does. -/
theorem update_spares {config : Config} (update : config.index.update = true) (files : Files)
    (now : Instant) :
    (∀ (σ τ : Type) (cluster : Cluster σ τ) (w : Traced σ),
      Spared w.trace (stateAfter (runWith cluster.traced config files now w)).trace ∧
      ∀ policy payload identity t u, config.namingPolicy = .ok policy →
        config.index.loadPayload files = .ok payload →
        policy.resolve cluster.traced now w = .ok identity t →
        cluster.traced.indexExists identity.index t = .ok false u →
        runWith cluster.traced config files now w = .error
          (.index (.indexNotFound identity.index)) u ∧
          Behind w.trace u.trace) ∧
    ∀ c : MemoryCluster,
      MemoryCluster.SameUpkeep c (stateAfter (runWith MemoryCluster.cluster config files now c)) ∧
      ∀ policy payload identity t, config.namingPolicy = .ok policy →
        config.index.loadPayload files = .ok payload →
        policy.resolve MemoryCluster.cluster now c = .ok identity t → ¬ c.Present identity.index →
        runWith MemoryCluster.cluster config files now c = .error
          (.index (.indexNotFound identity.index)) c := by
  constructor
  · intro σ τ cluster w
    refine ⟨keeps_runWith_of_update (cluster.traced_maintains w.trace) update files now w
      (.refl _), ?_⟩
    intro policy payload identity t u named loaded resolved missing
    refine ⟨runWith_of_missing update named loaded resolved missing, ?_⟩
    have looks {α : Type} {call : ClusterCall} (x : EStateM Failure σ α)
        (aside : ∀ accepted, ClusterEvent.Aside ⟨call, accepted⟩) :
        Keeps (fun v : Traced σ => Behind w.trace v.trace) (Traced.record call x) := fun v hv =>
      (Traced.leads_aside (P := Behind w.trace) x aside fun _ _ h he => h.append he).stateAfter hv
    have behind := (Lifecycle.keeps_resolve fun lookup => looks (cluster.aliases lookup) fun _ =>
      ⟨rfl, rfl⟩).of_ok
      (.refl _) resolved
    exact (looks (cluster.indexExists identity.index) fun _ => ⟨rfl, rfl⟩).of_ok behind missing
  · intro c
    refine ⟨keeps_runWith_of_update (MemoryCluster.maintains_upkeep c) update files now c fun _ =>
      rfl, ?_⟩
    intro policy payload identity t named loaded resolved absent
    obtain rfl := Lifecycle.eq_of_resolve resolved
    refine runWith_of_missing update named loaded resolved ?_
    show EStateM.Result.ok (t.indices.contains identity.index) t = _
    rw [Bool.eq_false_iff.2 absent]

/-- A record is written into an index that is there, though its deletion was asked for; without the
index there is only the look for it. -/
theorem update_spares_books :
    let config : Config :=
      { cluster := .memory .green, index := { name := "books", update := true, delete := true },
        inputFile := some "a" }
    let files : Files := fun _ => .content "\x7b\"id\":\"a\",\"doc\":1\x7d".toUTF8.toList
    let there : MemoryCluster := ({} : MemoryCluster).seed "books" ∅ ∅
    let v := stateAfter (runWith MemoryCluster.cluster config files ⟨0, 0⟩ there)
    v.getDocument "books" "a" = some "1" ∧ MemoryCluster.SameUpkeep there v ∧
      runWith MemoryCluster.cluster config files ⟨0, 0⟩ {} = .error
        (.index (.indexNotFound "books")) {} := by
  intro config files there v
  have written : v.getDocument "books" "a" = some "1" := by decide +kernel
  have asked : config.index.update = true := rfl
  have spares := (update_spares asked files ⟨0, 0⟩).2
  have named : config.namingPolicy = .ok ⟨"books", none, true⟩ :=
    eq_ok_of_toOption (by decide +kernel)
  have loaded : config.index.loadPayload files = .ok ⟨.object [], .object []⟩ :=
    eq_ok_of_toOption (by decide +kernel)
  have resolved : (⟨"books", none, true⟩ : NamingPolicy).resolve MemoryCluster.cluster ⟨0, 0⟩ {} =
      .ok (.direct "books") _ := eq_ok_of_answer (by decide +kernel)
  exact ⟨written, (spares there).1, (spares {}).2 _ _ _ _ named loaded resolved fun present =>
    by cases present⟩

end Reindex
