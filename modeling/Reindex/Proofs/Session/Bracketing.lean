import Reindex.Cluster.Memory
import Reindex.Proofs.Lifecycle.Start
import Reindex.Proofs.Session.Conservation
import Reindex.Proofs.Session.Regime
import Reindex.Proofs.Writer.Bracketing

/-!
# Bulk windows of a session

In a session in which every call works, the managed settings of an index that the run created are
lowered before the first bulk call of a window and restored after the last, and nothing else is ever
done to the settings. Between two windows no bulk call is under way and nothing is booked. The
settings of an index that was there before are left alone.

Main statement: `Session.windows_bracketed`, for every cluster.
-/

namespace Reindex

variable {σ τ : Type}

/-- Lowering and restoring in turn, so many times, and lowering once more if a window is still
open. -/
def alternation (setup : WriterSetup) (whole : Nat) (stillOpen : Bool) : List SettingsEvent :=
  (List.replicate whole [setup.lowering true, setup.restoring true]).flatten ++
    if stillOpen then [setup.lowering true] else []

/-- What a trace says of the windows of a session in which nothing failed. -/
structure Alternating (setup : WriterSetup) (stillOpen : Bool) (trace : List ClusterEvent) :
    Prop where
  /-- The settings updates that were sent, all of them accepted. -/
  updates : ∃ n, settingsEvents trace = alternation setup n stillOpen
  /-- They go to the index of the run, and change what is managed and nothing else. -/
  managed : ∀ e ∈ settingsEvents trace, e.index = setup.index ∧
    e.update.replicas.isSome = setup.tuning.replicas.isSome ∧
    e.update.refreshInterval.isSome = setup.tuning.refreshInterval.isSome
  /-- A bulk call is begun, and finished, behind a lowering with no restore since. -/
  bulk : ∀ before e after, trace = before ++ e :: after → e.isBulk = true →
    ∃ n, settingsEvents before = alternation setup n true

/-- An event that has to do neither with the settings nor with bulk calls. -/
structure ClusterEvent.Aside (e : ClusterEvent) : Prop where
  settings : e.settings? = none
  bulk : e.isBulk = false

/-- Behind a trace come bulk calls, and then these events. -/
def Drained (base tail trace : List ClusterEvent) : Prop :=
  ∃ calls : List ClusterEvent, (∀ e ∈ calls, e.isBulk = true) ∧ trace = base ++ calls ++ tail

/-- What the end of a window comes to: behind the last bulk call the settings are restored, and then
the index is refreshed. -/
def WindowEnd (setup : WriterSetup) (base trace : List ClusterEvent) : Prop :=
  Drained base [⟨.updateSettings setup.index setup.tuning.restoreUpdate, true⟩,
    ⟨.refreshIndex setup.index, true⟩] trace

/-- Behind a trace comes nothing that has to do with settings or with bulk calls. -/
def Behind (base trace : List ClusterEvent) : Prop :=
  ∃ after, (∀ e ∈ after, ClusterEvent.Aside e) ∧ trace = base ++ after

variable {setup : WriterSetup}

/-! ## Traces -/

theorem alternation_of_windows {stillOpen : Bool} {events : List SettingsEvent}
    (h : Windows setup (· = .restored) stillOpen events) :
    ∃ n, events = alternation setup n stillOpen := by
  obtain ⟨fates, all, rfl⟩ := h
  refine ⟨fates.length, ?_⟩
  have same : fates = List.replicate fates.length .restored := List.eq_replicate_of_mem all
  rw [same, List.flatMap_replicate, List.length_replicate]
  rfl

theorem managed_of_mem_alternation {n : Nat} {stillOpen : Bool} {e : SettingsEvent}
    (he : e ∈ alternation setup n stillOpen) : e.index = setup.index ∧
      e.update.replicas.isSome = setup.tuning.replicas.isSome ∧
      e.update.refreshInterval.isSome = setup.tuning.refreshInterval.isSome := by
  have either : e = setup.lowering true ∨ e = setup.restoring true := by
    rcases List.mem_append.1 he with he | he
    · obtain ⟨pair, hp, he⟩ := List.mem_flatten.1 he
      rw [List.eq_of_mem_replicate hp] at he
      simpa using he
    · cases stillOpen with
      | true => exact .inl (by simpa using he)
      | false => cases he
  rcases either with rfl | rfl
  · simp [WriterSetup.lowering, Tuning.windowUpdate]
  · simp [WriterSetup.restoring, Tuning.restoreUpdate]

theorem Bracketed.alternating {stillOpen : Bool} {trace : List ClusterEvent}
    (h : Bracketed setup (· = .restored) stillOpen trace) : Alternating setup stillOpen trace := by
  obtain ⟨n, updates⟩ := alternation_of_windows h.windows
  refine ⟨⟨n, updates⟩, fun e he => ?_, fun before e after ht he =>
    alternation_of_windows (h.inside before e after ht he)⟩
  rw [updates] at he
  exact managed_of_mem_alternation he

/-- Where nothing was said of settings and bulk calls, no window was opened. -/
theorem Bracketed.of_aside {allowed : WindowFate → Prop} {trace : List ClusterEvent}
    (h : ∀ e ∈ trace, e.Aside) :
    Bracketed setup allowed false trace where
  windows := ⟨[], fun _ hf => (by cases hf), List.filterMap_eq_nil_iff.2 fun e he =>
    (h e he).settings⟩
  inside before e after ht he := by
    have aside := (h e (by simp [ht])).bulk
    rw [he] at aside
    cases aside

theorem Traced.leads_aside {α : Type} {call : ClusterCall} {P : List ClusterEvent → Prop}
    (x : EStateM Failure σ α) (aside : ∀ accepted, ClusterEvent.Aside ⟨call, accepted⟩)
    (hP : ∀ t e, P t → ClusterEvent.Aside e → P (t ++ [e])) :
    Leads (fun w : Traced σ => P w.trace) (record call x) (fun w => P w.trace) fun w => P w.trace :=
  leads_record call x (fun t ht => hP t _ ht (aside true)) fun t ht => hP t _ ht (aside false)

/-- Nor has the decision on the alias to do with them. -/
theorem Cluster.traced_decides (cluster : Cluster σ τ) {P : List ClusterEvent → Prop}
    (hP : ∀ t e, P t → ClusterEvent.Aside e → P (t ++ [e])) :
    cluster.traced.Decides (fun w => P w.trace) fun w => P w.trace where
  indexExists _ := Traced.leads_aside _ (fun _ => ⟨rfl, rfl⟩) hP
  aliases _ := Traced.leads_aside _ (fun _ => ⟨rfl, rfl⟩) hP
  updateAliases _ := Traced.leads_aside _ (fun _ => ⟨rfl, rfl⟩) hP
  given _ hw := hw

/-- A start says nothing of settings updates and bulk calls. -/
theorem Cluster.traced_prepares (cluster : Cluster σ τ) :
    cluster.traced.Prepares fun w => ∀ e ∈ w.trace, e.Aside := by
  have aside {α : Type} {call : ClusterCall} (x : EStateM Failure σ α)
      (h : ∀ accepted, ClusterEvent.Aside ⟨call, accepted⟩) :
      Keeps (fun w : Traced σ => ∀ e ∈ w.trace, e.Aside) (Traced.record call x) := by
    intro w hw
    refine (Traced.leads_aside (P := fun t => ∀ e ∈ t, e.Aside) x h fun t e ht he f hf =>
      ?_).stateAfter hw
    rcases List.mem_append.1 hf with hf | hf
    · exact ht f hf
    · rwa [List.mem_singleton.1 hf]
  exact ⟨fun _ => aside _ fun _ => ⟨rfl, rfl⟩, fun _ _ _ => aside _ fun _ => ⟨rfl, rfl⟩,
    fun _ => aside _ fun _ => ⟨rfl, rfl⟩, fun _ => aside _ fun _ => ⟨rfl, rfl⟩,
    fun _ _ => aside _ fun _ => ⟨rfl, rfl⟩, fun _ => aside _ fun _ => ⟨rfl, rfl⟩⟩

/-! ## The end of a window -/

theorem Drained.refl (base : List ClusterEvent) : Drained base [] base :=
  ⟨[], fun _ h => (by cases h), by simp⟩

/-- One more bulk call. -/
theorem Drained.call {base trace : List ClusterEvent} (h : Drained base [] trace) {e : ClusterEvent}
    (he : e.isBulk = true) : Drained base [] (trace ++ [e]) := by
  obtain ⟨calls, all, rfl⟩ := h
  refine ⟨calls ++ [e], fun f hf => ?_, by simp⟩
  rcases List.mem_append.1 hf with hf | hf
  · exact all f hf
  · rwa [List.mem_singleton.1 hf]

/-- One more event that is none. -/
theorem Drained.append {base tail trace : List ClusterEvent} (h : Drained base tail trace)
    (e : ClusterEvent) :
    Drained base (tail ++ [e]) (trace ++ [e]) := by
  obtain ⟨calls, all, rfl⟩ := h
  exact ⟨calls, all, by simp⟩

theorem Behind.refl (base : List ClusterEvent) : Behind base base :=
  ⟨[], fun _ h => (by cases h), by simp⟩

theorem Behind.append {base trace : List ClusterEvent} (h : Behind base trace) {e : ClusterEvent}
    (he : e.Aside) :
    Behind base (trace ++ [e]) := by
  obtain ⟨after, aside, rfl⟩ := h
  refine ⟨after ++ [e], fun f hf => ?_, by simp⟩
  rcases List.mem_append.1 hf with hf | hf
  · exact aside f hf
  · rwa [List.mem_singleton.1 hf]

/-- **A flush of an open window** makes the bulk calls that are left, restores the settings and
refreshes the index. -/
theorem Writer.leads_flush_traced {cluster : Cluster σ τ} (hm : setup.manages = true)
    (base : List ClusterEvent) :
    Leads (Opened fun c : Traced σ => c.trace = base) (flush cluster.traced setup)
      (fun w => ∃ tally, w.Closed tally fun c => WindowEnd setup base c.trace)
      fun w => ∃ tally, w.Closed tally fun _ => True := by
  have carries : cluster.traced.Carries fun c => Drained base [] c.trace :=
    ⟨fun _ _ _ _ hc => hc.call rfl, fun _ _ _ _ hc => hc.call rfl⟩
  let restored : ClusterEvent := ⟨.updateSettings setup.index setup.tuning.restoreUpdate, true⟩
  have restore : Leads (fun c : Traced σ => Drained base [] c.trace)
      (cluster.traced.manage setup setup.tuning.restoreUpdate)
        (fun c => Drained base [restored] c.trace)
      fun _ => True := by
    rw [(cluster.traced.manage_of_manages hm).2]
    exact Traced.leads_record (E := fun _ => True) _ _ (fun _ h => h.append _) fun _ _ => trivial
  have refresh : Leads (fun c : Traced σ => Drained base [restored] c.trace)
    (cluster.traced.refreshIndex setup.index)
      (fun c => WindowEnd setup base c.trace) fun _ => True :=
    Traced.leads_record (E := fun _ => True) _ _ (fun _ h => h.append _) fun _ _ => trivial
  intro w hw
  refine leads_flush_opened carries restore refresh w ⟨hw.window, hw.atRest, ?_⟩
  rw [hw.cluster]
  exact .refl base

namespace Session

/-! ## The session -/

/-- From the flush of an open window until the next operation is added: the window is closed,
nothing is booked, and no bulk call is under way. -/
def Rests (cluster : Cluster (Traced σ) τ) (s : Session (Traced σ) τ) : Prop :=
  ∀ calls, added calls = [] →
    (carryOut cluster calls s).writer.window = .closed s.tally ∧
      Behind s.writer.cluster.trace (carryOut cluster calls s).writer.cluster.trace

theorem rests {cluster : Cluster σ τ} {s : Session (Traced σ) τ} {tally : RunTally}
    (hs : s.writer.window = .closed tally) : s.Rests cluster.traced := by
  intro calls hc
  have same : s.tally = tally := by
    show s.writer.window.tally = tally
    rw [hs]
    rfl
  have pass {α : Type} {call : ClusterCall} (x : EStateM Failure σ α)
      (aside : ∀ accepted, ClusterEvent.Aside ⟨call, accepted⟩) :=
    Traced.leads_aside (P := Behind s.writer.cluster.trace) x aside fun _ _ h he => h.append he
  have kept : (carryOut cluster.traced calls s).With s.setup
      (Writer.Closed tally fun c => Behind s.writer.cluster.trace c.trace) :=
    closed_carryOut (pass _ fun _ => ⟨rfl, rfl⟩) (fun _ => pass _ fun _ => ⟨rfl, rfl⟩)
      (fun _ _ => pass _ fun _ => ⟨rfl, rfl⟩) hc ⟨rfl, hs, .refl _⟩
  rw [same]
  exact ⟨kept.writer.window, kept.writer.cluster⟩

/-- Where an end flushes an open window, the window ends before the alias is decided on. -/
theorem leads_conclude_traced {cluster : Cluster σ τ} (hm : setup.manages = true)
    (base : List ClusterEvent) (ending : Ending) :
    Leads (With setup (Writer.Opened fun c : Traced σ => c.trace = base))
      (conclude cluster.traced ending)
      (fun s => ∃ tally, s.writer.Closed tally fun c => ∃ mid, WindowEnd setup base mid ∧
        Behind mid c.trace)
      fun s => ∃ tally, s.writer.Closed tally fun _ => True := by
  have flushed : Leads _ (Writer.flush cluster.traced setup)
      (fun w => ∃ tally, w.Closed tally fun c => ∃ mid, WindowEnd setup base mid ∧
        Behind mid c.trace) _ :=
    (Writer.leads_flush_traced hm base).weaken
      (fun w ⟨tally, h⟩ => ⟨tally, h.window, _, h.cluster, .refl _⟩) fun _ h => h
  have decides := cluster.traced_decides (P := fun t => ∃ mid, WindowEnd setup base mid ∧
    Behind mid t)
    fun _ _ ⟨mid, h, b⟩ he => ⟨mid, h, b.append he⟩
  refine leads_conclude_of flushed (fun w hw ho => ?_) (decides.weaken fun _ _ => trivial) ending
  rw [hw.window] at ho
  cases ho

/-- What a session starts with: its setup, a closed window, and a trace without a word on settings
and bulk calls. -/
theorem traced_start {cluster : Cluster σ τ} {policy : NamingPolicy} {now : Instant}
    {tuning : Tuning} {payload : IndexPayload} {options : SessionOptions} {s₀ : σ}
    {s : Session (Traced σ) τ}
    (h : start cluster.traced policy now tuning payload options { state := s₀ } = .ok s) :
    s.setup = ⟨s.lifecycle.identity.index, tuning, s.lifecycle.created, options.writer⟩ ∧
      s.writer.window = .closed {} ∧ ∀ e ∈ s.writer.cluster.trace, e.Aside := by
  obtain ⟨l, v, started, rfl⟩ := ofLifecycle_of_start h
  have same := (Lifecycle.started_of_ok started).tuning
  have aside := (Lifecycle.keeps_starting cluster.traced_prepares).of_ok
    (fun _ he => by cases he) started
  refine ⟨?_, rfl, aside⟩
  rw [← same]
  rfl

/-- Where all windows that are over were restored, the updates alternate. -/
theorem alternating_of_under {s : Session (Traced σ) τ}
    (h : s.With setup (Writer.Under (windowRegime σ setup (· = .restored)))) :
    Alternating setup s.writer.window.isOpen s.writer.cluster.trace := by
  cases h.writer with
  | closed hw =>
    rw [hw.window]
    exact hw.cluster.alternating
  | opened hw =>
    rw [hw.window]
    exact hw.cluster.alternating

/-- The settings of an index that the run found are left alone, whatever fails. -/
theorem settings_untouched {cluster : Cluster σ τ} {policy : NamingPolicy} {now : Instant}
    {tuning : Tuning} {payload : IndexPayload} {options : SessionOptions} {s₀ : σ}
    {s : Session (Traced σ) τ}
    (hs : start cluster.traced policy now tuning payload options { state := s₀ } = .ok s)
    (found : s.lifecycle.created = false) (calls : List Call) (ending : Ending) :
    Unsettled (carryOut cluster.traced calls s).writer.cluster ∧
      Unsettled (stateAfter
        (conclude cluster.traced ending (carryOut cluster.traced calls s))).writer.cluster := by
  obtain ⟨same, idle, aside⟩ := traced_start hs
  have hm : s.setup.manages = false := by
    unfold WriterSetup.manages
    rw [show s.setup.created = false from found]
    rfl
  have follows := cluster.traced_unmanaged hm
  have unsettled : Unsettled s.writer.cluster := List.filterMap_eq_nil_iff.2 fun e he =>
    (aside e he).settings
  have kept := under_carryOut follows calls ⟨rfl, .closed ⟨idle, unsettled⟩⟩
  obtain ⟨tally, closed⟩ := (leads_conclude follows ending).stateAfter kept
  refine ⟨?_, closed.cluster⟩
  cases kept.writer with
  | closed hw => exact hw.cluster
  | opened hw => exact hw.cluster

/-- **Bulk windows are bracketed.** While every call works, the managed settings of an index that
the run created are lowered and restored in turn, with all bulk calls in between; the flush of an
open window ends with the restore and the refresh, and until the next operation is added nothing is
under way. The settings of an index that the run found are left alone, whatever fails. -/
theorem windows_bracketed {cluster : Cluster σ τ} {policy : NamingPolicy} {now : Instant}
    {tuning : Tuning} {payload : IndexPayload} {options : SessionOptions} {s₀ : σ}
    {s : Session (Traced σ) τ}
    (hs : start cluster.traced policy now tuning payload options { state := s₀ } = .ok s) :
    let setup : WriterSetup :=
      ⟨s.lifecycle.identity.index, tuning, s.lifecycle.created, options.writer⟩
    (s.lifecycle.created = true → (tuning.replicas.isSome || tuning.refreshInterval.isSome) = true →
      ∀ calls u, performAll cluster.traced calls s = .ok () u →
        Alternating setup u.writer.window.isOpen u.writer.cluster.trace ∧
        (u.writer.window.isOpen = true → ∀ drained v, flush cluster.traced u = .ok drained v →
          WindowEnd setup u.writer.cluster.trace v.writer.cluster.trace ∧ v.Rests cluster.traced) ∧
        ∀ ending report v, conclude cluster.traced ending u = .ok report v →
          Alternating setup false v.writer.cluster.trace ∧
          (u.writer.window.isOpen = true →
            ∃ mid, WindowEnd setup u.writer.cluster.trace mid ∧
              Behind mid v.writer.cluster.trace)) ∧
    (s.lifecycle.created = false → ∀ calls ending,
      settingsEvents (carryOut cluster.traced calls s).writer.cluster.trace = [] ∧
      settingsEvents (stateAfter
        (conclude cluster.traced ending (carryOut cluster.traced calls s))).writer.cluster.trace =
          []) := by
  intro setup
  obtain ⟨same, idle, aside⟩ := traced_start hs
  constructor
  · intro created managed calls u hu
    have hm : setup.manages = true := by
      unfold WriterSetup.manages
      rw [show setup.created = true from created]
      exact managed
    have follows := cluster.traced_follows hm (· = .restored) rfl
    have kept := (leads_performAll follows calls).of_ok ⟨same, .closed ⟨idle, .of_aside aside⟩⟩ hu
    have opened (ho : u.writer.window.isOpen = true) :
        u.With setup (Writer.Opened fun c => c.trace = u.writer.cluster.trace) :=
      ⟨kept.setup, ho, kept.writer.atRest, rfl⟩
    refine ⟨alternating_of_under kept, fun ho drained v hv => ?_, fun ending report v hv =>
      ⟨?_, fun ho => ?_⟩⟩
    · obtain ⟨tally, closed⟩ :=
        ((leads_flush (Writer.leads_flush_traced hm _)).of_ok (opened ho) hv).writer
      exact ⟨closed.cluster, rests closed.window⟩
    · obtain ⟨tally, closed⟩ := (leads_conclude follows ending).of_ok kept hv
      exact closed.cluster.alternating
    · obtain ⟨tally, closed⟩ := (leads_conclude_traced hm _ ending).of_ok (opened ho) hv
      exact closed.cluster
  · exact fun found calls ending => settings_untouched hs found calls ending

/-- Two windows into a fresh index, the second of which is still open, and one into an index that
was there. -/
theorem windows_bracketed_twice :
    let cluster := MemoryCluster.cluster.traced
    let policy : NamingPolicy := ⟨"books", none, false⟩
    let calls : List Call := [.add ⟨.index, "a", some "1"⟩, .flush, .add ⟨.delete, "b", none⟩]
    let setup : WriterSetup := ⟨"books", {}, true, {}⟩
    let there : MemoryCluster := ({} : MemoryCluster).seed "books" ∅ ∅
    (∃ s u v, start cluster policy ⟨0, 0⟩ {} ⟨.null, .null⟩ {} { state := {} } = .ok s ∧
      s.lifecycle.created = true ∧
      performAll cluster calls s = .ok () u ∧ u.writer.window.isOpen = true ∧
      (settingsEvents u.writer.cluster.trace).map (·.update.replicas) = [some 0, some 1, some 0] ∧
      flush cluster u = .ok true v ∧ Alternating setup true u.writer.cluster.trace ∧
      WindowEnd setup u.writer.cluster.trace v.writer.cluster.trace ∧ v.Rests cluster) ∧
    ∃ s, start cluster policy ⟨0, 0⟩ {} ⟨.null, .null⟩ {} { state := there } = .ok s ∧
      s.lifecycle.created = false ∧
      settingsEvents (carryOut cluster calls s).writer.cluster.trace = [] := by
  intro cluster policy calls setup there
  constructor
  · let c : Traced MemoryCluster := { state := {} }
    let s : Session (Traced MemoryCluster) Unit :=
      ofLifecycle ⟨.direct "books", {}, {}, .ensured, true⟩ {}
      (stateAfter (Lifecycle.start cluster policy ⟨0, 0⟩ {} ⟨.null, .null⟩ {} c))
    have started : start cluster policy ⟨0, 0⟩ {} ⟨.null, .null⟩ {} c = .ok s := rfl
    obtain ⟨⟨⟩, performed⟩ :=
      eq_ok_of_worked (show worked (performAll cluster calls s) = true by decide +kernel)
    let u := stateAfter (performAll cluster calls s)
    have isOpen : u.writer.window.isOpen = true := by decide +kernel
    have updates : (settingsEvents u.writer.cluster.trace).map (·.update.replicas) = [some 0,
      some 1, some 0] := by
      decide +kernel
    have flushed : flush cluster u = .ok true _ := eq_ok_of_answer (by decide +kernel)
    obtain ⟨alternating, ends, -⟩ := (windows_bracketed started).1 rfl rfl calls u performed
    rw [isOpen] at alternating
    exact ⟨s, u, _, started, rfl, performed, isOpen, updates, flushed, alternating,
      ends isOpen true _ flushed⟩
  · let c : Traced MemoryCluster := { state := there }
    let s : Session (Traced MemoryCluster) Unit :=
      ofLifecycle ⟨.direct "books", {}, {}, .ensured, false⟩ {}
      (stateAfter (Lifecycle.start cluster policy ⟨0, 0⟩ {} ⟨.null, .null⟩ {} c))
    have started : start cluster policy ⟨0, 0⟩ {} ⟨.null, .null⟩ {} c = .ok s := rfl
    exact ⟨s, started, rfl, ((windows_bracketed started).2 rfl calls .abort).1⟩

end Session

end Reindex
