import Reindex.Proofs.Cluster.Traced
import Reindex.Proofs.Writer.Regime

/-!
# Settings updates around bulk windows

The trace of a cluster tells window by window what became of the managed settings: they could not be
lowered, or they were lowered and restored, or they were lowered and left low. Bulk calls are made
behind a lowering and before what comes of the restore.

Main statements: `Cluster.traced_follows` for an index whose settings are the writer's to change,
and `Cluster.traced_unmanaged` for any other, where no settings update is sent at all.
-/

namespace Reindex

variable {σ τ : Type}

namespace WriterSetup

/-- Lowering the managed settings, as an event. -/
def lowering (setup : WriterSetup) (accepted : Bool) : SettingsEvent :=
  ⟨setup.index, setup.tuning.windowUpdate, accepted⟩

/-- Restoring them, as an event. -/
def restoring (setup : WriterSetup) (accepted : Bool) : SettingsEvent :=
  ⟨setup.index, setup.tuning.restoreUpdate, accepted⟩

end WriterSetup

/-- What became of the managed settings at a bulk window. -/
inductive WindowFate where
  /-- They could not be lowered, and the window was not opened. -/
  | refused
  /-- They were lowered and restored. -/
  | restored
  /-- They were lowered and could not be restored. -/
  | leftLow
deriving DecidableEq, Repr

/-- The settings updates of a window that is over. -/
def WindowFate.events (setup : WriterSetup) : WindowFate → List SettingsEvent
  | .refused => [setup.lowering false]
  | .restored => [setup.lowering true, setup.restoring true]
  | .leftLow => [setup.lowering true, setup.restoring false]

/-- Settings updates that are those of windows with allowed fates, and of one more that is still
open. -/
def Windows (setup : WriterSetup) (allowed : WindowFate → Prop) (stillOpen : Bool)
    (events : List SettingsEvent) : Prop :=
  ∃ fates : List WindowFate, (∀ f ∈ fates, allowed f) ∧
    events = fates.flatMap (·.events setup) ++ if stillOpen then [setup.lowering true] else []

/-- A trace in which the settings updates go window by window, and all bulk calls are made in open
windows. -/
structure Bracketed (setup : WriterSetup) (allowed : WindowFate → Prop) (stillOpen : Bool)
    (trace : List ClusterEvent) :
    Prop where
  windows : Windows setup allowed stillOpen (settingsEvents trace)
  inside : ∀ before e after, trace = before ++ e :: after → e.isBulk = true →
    Windows setup allowed true (settingsEvents before)

variable {setup : WriterSetup} {allowed : WindowFate → Prop} {stillOpen : Bool}

/-! ## Windows one after another -/

theorem Windows.mono {allowed' : WindowFate → Prop} (h : ∀ f, allowed f → allowed' f)
    {events : List SettingsEvent} (hw : Windows setup allowed stillOpen events) :
    Windows setup allowed' stillOpen events := by
  obtain ⟨fates, all, rfl⟩ := hw
  exact ⟨fates, fun f hf => h f (all f hf), rfl⟩

theorem Windows.lower {events : List SettingsEvent} (hw : Windows setup allowed false events) :
    Windows setup allowed true (events ++ [setup.lowering true]) := by
  obtain ⟨fates, all, rfl⟩ := hw
  exact ⟨fates, all, by simp⟩

/-- One more window is over. -/
theorem Windows.over {events : List SettingsEvent} {fates : List WindowFate}
    (all : ∀ f ∈ fates, allowed f) {fate : WindowFate} (hf : allowed fate)
    (he : events = fates.flatMap (·.events setup) ++ fate.events setup) :
    Windows setup allowed false events := by
  refine ⟨fates ++ [fate], ?_, by simp [he]⟩
  intro f h
  rcases List.mem_append.1 h with h | h
  · exact all f h
  · rw [List.mem_singleton.1 h]
    exact hf

theorem Windows.refuse (ha : allowed .refused) {events : List SettingsEvent}
    (hw : Windows setup allowed false events) :
    Windows setup allowed false (events ++ [setup.lowering false]) := by
  obtain ⟨fates, all, rfl⟩ := hw
  exact .over all ha (by simp [WindowFate.events])

theorem Windows.restore (ha : allowed .restored) {events : List SettingsEvent}
    (hw : Windows setup allowed true events) :
    Windows setup allowed false (events ++ [setup.restoring true]) := by
  obtain ⟨fates, all, rfl⟩ := hw
  exact .over all ha (by simp [WindowFate.events])

theorem Windows.leaveLow (ha : allowed .leftLow) {events : List SettingsEvent}
    (hw : Windows setup allowed true events) :
    Windows setup allowed false (events ++ [setup.restoring false]) := by
  obtain ⟨fates, all, rfl⟩ := hw
  exact .over all ha (by simp [WindowFate.events])

/-! ## One event more -/

theorem Bracketed.mono {allowed' : WindowFate → Prop} (h : ∀ f, allowed f → allowed' f)
    {trace : List ClusterEvent} (hb : Bracketed setup allowed stillOpen trace) :
    Bracketed setup allowed' stillOpen trace where
  windows := hb.windows.mono h
  inside before e after ht he := (hb.inside before e after ht he).mono h

/-- One event behind a trace. If it belongs to a bulk call then the window is open. -/
theorem Bracketed.append {trace : List ClusterEvent} (hb : Bracketed setup allowed stillOpen trace)
    (e : ClusterEvent) {stillOpen' : Bool}
    (windows : Windows setup allowed stillOpen' (settingsEvents (trace ++ [e])))
    (bulk : e.isBulk = true → stillOpen = true) :
    Bracketed setup allowed stillOpen' (trace ++ [e]) where
  windows := windows
  inside before e' after ht he := by
    rcases List.eq_nil_or_concat after with rfl | ⟨after, last, rfl⟩
    · obtain ⟨rfl, same⟩ := List.append_inj' ht rfl
      cases same
      have now := hb.windows
      rwa [bulk he] at now
    · rw [List.concat_eq_append, ← List.cons_append, ← List.append_assoc] at ht
      exact hb.inside before e' after (List.append_inj' ht rfl).1 he

/-- An event that has nothing to do with the settings. -/
theorem Bracketed.pass {trace : List ClusterEvent} (hb : Bracketed setup allowed stillOpen trace)
    (e : ClusterEvent) (settings : e.settings? = none) (bulk : e.isBulk = true → stillOpen = true) :
    Bracketed setup allowed stillOpen (trace ++ [e]) := by
  refine hb.append e ?_ bulk
  rw [settingsEvents_pass trace settings]
  exact hb.windows

/-- An update of the managed settings. -/
theorem Bracketed.settle {trace : List ClusterEvent} (hb : Bracketed setup allowed stillOpen trace)
    {update : SettingsUpdate} {accepted stillOpen' : Bool}
    (windows : Windows setup allowed stillOpen'
      (settingsEvents trace ++ [⟨setup.index, update, accepted⟩])) :
    Bracketed setup allowed stillOpen'
      (trace ++ [⟨.updateSettings setup.index update, accepted⟩]) := by
  refine hb.append _ ?_ fun h => (by cases h)
  rw [settingsEvents_append]
  exact windows

/-! ## The traced cluster -/

/-- Windows with allowed fates, one after another. -/
def windowRegime (σ : Type) (setup : WriterSetup) (allowed : WindowFate → Prop) :
    Regime (Traced σ) where
  closed w := Bracketed setup allowed false w.trace
  opened w := Bracketed setup allowed true w.trace

/-- A call that has nothing to do with the settings changes nothing about the windows. -/
theorem Traced.leads_pass {α : Type} {call : ClusterCall} (x : EStateM Failure σ α)
    (settings : ∀ accepted, ClusterEvent.settings? ⟨call, accepted⟩ = none)
    (bulk : ∀ accepted, ClusterEvent.isBulk ⟨call, accepted⟩ = false) :
    Leads (fun w : Traced σ => Bracketed setup allowed stillOpen w.trace) (record call x)
      (fun w => Bracketed setup allowed stillOpen w.trace) fun w =>
        Bracketed setup (fun _ => True) stillOpen w.trace := by
  have passed (accepted : Bool) (t : List ClusterEvent) (ht : Bracketed setup allowed stillOpen t) :
      Bracketed setup allowed stillOpen (t ++ [⟨call, accepted⟩]) :=
    ht.pass _ (settings accepted) fun h => by rw [bulk] at h; cases h
  exact leads_record call x (passed true) fun t ht => (passed false t ht).mono fun _ _ => trivial

/-- Where the settings are the writer's to change, they are changed. -/
theorem Cluster.manage_of_manages (cluster : Cluster σ τ) (hm : setup.manages = true) :
    cluster.manage setup setup.tuning.windowUpdate = cluster.updateSettings setup.index
      setup.tuning.windowUpdate ∧
      cluster.manage setup setup.tuning.restoreUpdate = cluster.updateSettings setup.index
        setup.tuning.restoreUpdate := by
  unfold manage
  rw [setup.tuning.isEmpty_windowUpdate, setup.tuning.isEmpty_restoreUpdate, Bool.not_not]
  exact ⟨if_pos hm, if_pos hm⟩

/-- Where they are not, nothing is asked of the cluster. -/
theorem Cluster.manage_of_not_manages (cluster : Cluster σ τ) (hm : setup.manages = false) :
    cluster.manage setup setup.tuning.windowUpdate = pure () ∧
      cluster.manage setup setup.tuning.restoreUpdate = pure () := by
  unfold manage
  rw [setup.tuning.isEmpty_windowUpdate, setup.tuning.isEmpty_restoreUpdate, Bool.not_not]
  have not : ¬ setup.manages = true := by simp [hm]
  exact ⟨if_neg not, if_neg not⟩

/-- **The windows of a writer.** As long as its calls work, every window that is over is
restored. -/
theorem Cluster.traced_follows (cluster : Cluster σ τ) (hm : setup.manages = true)
    (allowed : WindowFate → Prop) (restored : allowed .restored) :
    cluster.traced.Follows setup (windowRegime σ setup allowed) (windowRegime σ setup fun _ =>
      True) where
  carries :=
    { beginBulk := fun _ _ _ _ hw => hw.pass _ rfl fun _ => rfl
      finishBulk := fun _ _ _ _ hw => hw.pass _ rfl fun _ => rfl }
  lower := by
    rw [(cluster.traced.manage_of_manages hm).1]
    refine Traced.leads_record _ _ (fun t ht => ht.settle ht.windows.lower) fun t ht => ?_
    have weak : Bracketed setup (fun _ => True) _ _ := ht.mono fun _ _ => trivial
    exact weak.settle (weak.windows.refuse trivial)
  restore := by
    rw [(cluster.traced.manage_of_manages hm).2]
    refine Traced.leads_record _ _ (fun t ht => ht.settle (ht.windows.restore restored)) fun t ht =>
      ?_
    have weak : Bracketed setup (fun _ => True) _ _ := ht.mono fun _ _ => trivial
    exact weak.settle (weak.windows.leaveLow trivial)
  refresh := Traced.leads_pass _ (fun _ => rfl) fun _ => rfl
  read _ := ⟨Traced.leads_pass _ (fun _ => rfl) fun _ => rfl,
    Traced.leads_pass _ (fun _ => rfl) fun _ => rfl⟩
  store _ _ :=
    ⟨Traced.leads_pass _ (fun _ => rfl) fun _ => rfl,
      Traced.leads_pass _ (fun _ => rfl) fun _ => rfl⟩
  decides :=
    { indexExists := fun _ => Traced.leads_pass _ (fun _ => rfl) fun _ => rfl
      aliases := fun _ => Traced.leads_pass _ (fun _ => rfl) fun _ => rfl
      updateAliases := fun _ => Traced.leads_pass _ (fun _ => rfl) fun _ => rfl
      given := fun _ hw => hw.mono fun _ _ => trivial }

/-- No settings update was sent. -/
def Unsettled (w : Traced σ) : Prop := settingsEvents w.trace = []

theorem Traced.unsettled_pass {α : Type} {call : ClusterCall} (x : EStateM Failure σ α)
    (settings : ∀ accepted, ClusterEvent.settings? ⟨call, accepted⟩ = none) :
    Leads Unsettled (record call x) Unsettled Unsettled := by
  have passed (accepted : Bool) (t : List ClusterEvent) (ht : settingsEvents t = []) :
      settingsEvents (t ++ [⟨call, accepted⟩]) = [] :=
    (settingsEvents_pass t (settings accepted)).trans ht
  exact leads_record (Q := (settingsEvents · = [])) (E := (settingsEvents · = [])) call x
    (passed true) (passed false)

/-- **Where the settings are not the writer's to change**, no update is sent, whatever fails. -/
theorem Cluster.traced_unmanaged (cluster : Cluster σ τ) (hm : setup.manages = false) :
    cluster.traced.Follows setup (.constant Unsettled) (.constant Unsettled) where
  carries :=
    { beginBulk := fun _ _ _ w hw => (settingsEvents_pass w.trace rfl).trans hw
      finishBulk := fun _ _ _ w hw => (settingsEvents_pass w.trace rfl).trans hw }
  lower := by
    rw [(cluster.traced.manage_of_not_manages hm).1]
    exact .pure () fun _ h => h
  restore := by
    rw [(cluster.traced.manage_of_not_manages hm).2]
    exact .pure () fun _ h => h
  refresh := Traced.unsettled_pass _ fun _ => rfl
  read _ := ⟨Traced.unsettled_pass _ fun _ => rfl, Traced.unsettled_pass _ fun _ => rfl⟩
  store _ _ := ⟨Traced.unsettled_pass _ fun _ => rfl, Traced.unsettled_pass _ fun _ => rfl⟩
  decides :=
    { indexExists := fun _ => Traced.unsettled_pass _ fun _ => rfl
      aliases := fun _ => Traced.unsettled_pass _ fun _ => rfl
      updateAliases := fun _ => Traced.unsettled_pass _ fun _ => rfl
      given := fun _ h => h }

end Reindex
