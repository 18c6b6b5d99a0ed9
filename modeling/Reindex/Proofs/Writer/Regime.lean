import Reindex.Proofs.Writer.Course

/-!
# Inside and outside of a bulk window

What is true of a cluster may change with the bulk window: the managed settings are lowered when it
opens and restored when it closes. A regime says what is true outside of a window and what is true
inside; bulk calls are made inside only, and the calls at the two ends lead from one to the other.

Main statements: `Writer.leads_add` and `Writer.leads_flush`, by which a writer keeps to a regime if
its cluster does, and `Writer.leads_flush_opened` for what a flush does at the end of a window.
-/

namespace Reindex

variable {σ τ : Type}

/-- What is true of a cluster outside and inside of a bulk window. -/
structure Regime (σ : Type) where
  closed : σ → Prop
  opened : σ → Prop

/-- The same inside and outside. -/
def Regime.constant (P : σ → Prop) : Regime σ := ⟨P, P⟩

/-- The managed settings are the writer's to change, and there are some. -/
def WriterSetup.manages (setup : WriterSetup) : Bool :=
  setup.created && (setup.tuning.replicas.isSome || setup.tuning.refreshInterval.isSome)

theorem Tuning.isEmpty_windowUpdate (t : Tuning) :
    t.windowUpdate.isEmpty = !(t.replicas.isSome || t.refreshInterval.isSome) := by
  cases hr : t.replicas <;> cases hi : t.refreshInterval <;>
    simp [windowUpdate, SettingsUpdate.isEmpty, hr, hi]

theorem Tuning.isEmpty_restoreUpdate (t : Tuning) :
    t.restoreUpdate.isEmpty = !(t.replicas.isSome || t.refreshInterval.isSome) := by
  cases hr : t.replicas <;> cases hi : t.refreshInterval <;>
    simp [restoreUpdate, SettingsUpdate.isEmpty, hr, hi]

/-- What a cluster does with a change of the managed settings: nothing, where they are not the
writer's. -/
def Cluster.manage (cluster : Cluster σ τ) (setup : WriterSetup) (update : SettingsUpdate) :
    EStateM Failure σ Unit :=
  if setup.created && !update.isEmpty then cluster.updateSettings setup.index update else pure ()

namespace Writer

/-- The window is closed with this ledger, and the cluster is in a state with the property. -/
structure Closed (tally : RunTally) (P : σ → Prop) (w : Writer σ τ) : Prop where
  window : w.window = .closed tally
  cluster : P w.cluster

/-- The window is open, between two operations, and the cluster is in a state with the property. -/
structure Opened (P : σ → Prop) (w : Writer σ τ) : Prop where
  window : w.window.isOpen = true
  atRest : w.window.AtRest
  cluster : P w.cluster

/-- A writer that keeps to a regime. -/
inductive Under (r : Regime σ) (w : Writer σ τ) : Prop
  | closed {tally : RunTally} (hw : w.Closed tally r.closed)
  | opened (hw : w.Opened r.opened)

theorem Under.atRest {r : Regime σ} {w : Writer σ τ} (hw : w.Under r) : w.window.AtRest := by
  cases hw with
  | closed hw => rw [hw.window]; trivial
  | opened hw => exact hw.atRest

theorem Opened.channel {P : σ → Prop} {w : Writer σ τ} (hw : w.Opened P) :
    ∃ channel, w.window = .opened channel ∧ channel.AtRest := by
  cases ho : w.window with
  | closed tally =>
    have window := hw.window
    rw [ho] at window
    cases window
  | opened channel =>
    have rest := hw.atRest
    rw [ho] at rest
    exact ⟨channel, rfl, rest⟩

variable {cluster : Cluster σ τ} {setup : WriterSetup} {P Q R E : σ → Prop} {tally : RunTally}

/-! ## Calls besides the bulk calls -/

theorem closed_takeTurn (cluster : Cluster σ τ) {w : Writer σ τ} (hw : w.Closed tally P) :
    (w.takeTurn cluster).Closed tally P := by
  refine ⟨window_takeTurn cluster hw.window, ?_⟩
  rw [cluster_takeTurn cluster hw.window]
  exact hw.cluster

/-- The batches of an open window may have their turn first. -/
theorem opened_takeTurn (hP : cluster.Carries P) {w : Writer σ τ} (hw : w.Opened P) :
    (w.takeTurn cluster).Opened P := by
  obtain ⟨channel, ho, rest⟩ := hw.channel
  obtain ⟨h, -, hc⟩ := Traffic.course_makeReady cluster (w.traffic channel)
  have ready := Traffic.atRest_makeReady cluster (t := w.traffic channel) rest
  have turned : w.takeTurn cluster = ofTraffic ((w.traffic channel).makeReady cluster).spend := by
    unfold takeTurn
    rw [ho]
  have kept : P ((w.traffic channel).makeReady cluster).cluster := Traffic.carried hP hw.cluster hc
  rw [turned]
  exact ⟨rfl, ready, kept⟩

variable {α : Type} {x : EStateM Failure σ α}

theorem leads_ask_closed (hx : Leads P x Q E) :
    Leads (Closed tally P) (ask cluster x) (Closed tally Q) (Closed tally E) := by
  intro w hw
  have turned := closed_takeTurn cluster hw
  unfold ask
  dsimp only
  cases ha : x (w.takeTurn cluster).cluster with
  | ok a s => exact ⟨turned.window, hx.of_ok turned.cluster ha⟩
  | error e s => exact ⟨turned.window, hx.of_error turned.cluster ha⟩

theorem leads_ask_opened (hP : cluster.Carries P) (hx : Leads P x Q E) :
    Leads (Opened P) (ask cluster x) (Opened Q) (Opened E) := by
  intro w hw
  have turned := opened_takeTurn hP hw
  unfold ask
  dsimp only
  cases ha : x (w.takeTurn cluster).cluster with
  | ok a s => exact ⟨turned.window, turned.atRest, hx.of_ok turned.cluster ha⟩
  | error e s => exact ⟨turned.window, turned.atRest, hx.of_error turned.cluster ha⟩

theorem leads_applySettings {update : SettingsUpdate}
    (hx : Leads P (cluster.manage setup update) Q E) :
    Leads (Closed tally P) (applySettings cluster setup update) (Closed tally Q)
      (Closed tally E) := by
  unfold Cluster.manage at hx
  unfold applySettings
  split at hx
  · rename_i hm
    rw [if_pos hm]
    exact leads_ask_closed hx
  · rename_i hm
    rw [if_neg hm]
    exact .pure () fun w hw => ⟨hw.window, hx.of_ok hw.cluster rfl⟩

/-! ## Writing -/

/-- The first operation opens the window, behind the lowered settings. -/
theorem leads_add_closed (op : Operation)
    (lower : Leads P (cluster.manage setup setup.tuning.windowUpdate) Q E)
    (hQ : cluster.Carries Q) :
    Leads (Closed tally P) (add cluster setup op) (Opened Q) (Closed tally E) := by
  intro w hw
  have applied := leads_applySettings lower w hw
  cases hs : applySettings cluster setup setup.tuning.windowUpdate w with
  | error e u =>
    rw [hs] at applied
    have failed := openChannel_of_closed cluster setup hw.window
    rw [hs] at failed
    unfold add
    rw [bind_of_error failed]
    exact applied
  | ok a u =>
    rw [hs] at applied
    rw [add_of_closed cluster setup op hw.window hs]
    let channel : Channel τ := .ofTally setup.index setup.tuning.limits setup.options.backoff tally
    obtain ⟨h, hc, -, -, rest⟩ :=
      Traffic.course_add cluster op (t := u.traffic channel) ⟨rfl, fun _ => rfl⟩
    exact ⟨rfl, rest, Traffic.carried hQ applied.cluster hc⟩

/-- The others go to the open channel. -/
theorem leads_add_opened (op : Operation) (hQ : cluster.Carries Q) :
    Leads (Opened Q) (add cluster setup op) (Opened Q) (Opened E) := by
  intro w hw
  obtain ⟨channel, ho, rest⟩ := hw.channel
  rw [add_of_opened cluster setup op ho]
  obtain ⟨h, hc, -, -, rest⟩ := Traffic.course_add cluster op (t := w.traffic channel) rest
  exact ⟨rfl, rest, Traffic.carried hQ hw.cluster hc⟩

/-! ## Flushing -/

/-- Draining makes the bulk calls that are left and closes the window. -/
theorem drain_opened (setup : WriterSetup) (hP : cluster.Carries P) {w : Writer σ τ}
    (hw : w.Opened P) :
    (drain cluster setup w).1.isSome = true ∧
      (drain cluster setup w).2.Closed (drain cluster setup w).2.tally P := by
  obtain ⟨channel, ho, rest⟩ := hw.channel
  obtain ⟨h, hc, -, -, -⟩ := Traffic.course_close cluster setup.options.flushTimeout
    (t := w.traffic channel) rest
  unfold drain
  rw [ho]
  exact ⟨rfl, rfl, Traffic.carried hP hw.cluster hc⟩

/-- **The end of a window**: after the last bulk call the settings are restored, and then the index
is refreshed. -/
theorem leads_flush_opened (hP : cluster.Carries P)
    (restore : Leads P (cluster.manage setup setup.tuning.restoreUpdate) Q E)
    (refresh : Leads Q (cluster.refreshIndex setup.index) R E) :
    Leads (Opened P) (flush cluster setup) (fun w => ∃ tally, w.Closed tally R) fun w => ∃ tally, w.Closed tally E := by
  intro w hw
  obtain ⟨some, closed⟩ := drain_opened setup hP hw
  rw [flush_eq]
  generalize (drain cluster setup w).1 = drained at some
  generalize (drain cluster setup w).2 = u at closed
  have ended : Leads (Closed u.tally P) (endWindow cluster setup drained) (Closed u.tally R) (Closed u.tally E) := by
    unfold endWindow
    rw [if_pos some]
    exact (leads_applySettings restore).bind fun _ => (leads_ask_closed refresh).bind fun _ => .pure _ fun _ h => h
  exact ended.weaken (fun w h => ⟨_, h⟩) (fun w h => ⟨_, h⟩) u closed

/-- Without a window a flush is a refresh. -/
theorem leads_flush_closed (refresh : Leads P (cluster.refreshIndex setup.index) Q E) :
    Leads (Closed tally P) (flush cluster setup) (Closed tally Q) (Closed tally E) := by
  intro w hw
  have drained : drain cluster setup w = (none, w) := by
    unfold drain
    rw [hw.window]
  rw [flush_eq, drained]
  exact (leads_ask_closed refresh).bind (fun _ => .pure _ fun _ h => h) w hw

end Writer

/-! ## Keeping to a regime -/

/-- A call that is made inside and outside of a window, and changes nothing that the regime is
about. Where it fails, another regime holds. -/
structure Regime.Abides {α : Type} (r e : Regime σ) (x : EStateM Failure σ α) : Prop where
  closed : Leads r.closed x r.closed e.closed
  opened : Leads r.opened x r.opened e.opened

/-- The calls that a session decides on the alias with keep `P`; where one fails, `E` holds. -/
structure Cluster.Decides (cluster : Cluster σ τ) (P E : σ → Prop) : Prop where
  indexExists : ∀ index, Leads P (cluster.indexExists index) P E
  aliases : ∀ lookup, Leads P (cluster.aliases lookup) P E
  updateAliases : ∀ actions, Leads P (cluster.updateAliases actions) P E
  /-- The decision may also fail of itself. -/
  given : ∀ s, P s → E s

theorem Cluster.Decides.weaken {cluster : Cluster σ τ} {P E E' : σ → Prop} (h : cluster.Decides P E)
    (hE : ∀ s, E s → E' s) : cluster.Decides P E' where
  indexExists index := (h.indexExists index).weaken (fun _ hs => hs) hE
  aliases lookup := (h.aliases lookup).weaken (fun _ hs => hs) hE
  updateAliases actions := (h.updateAliases actions).weaken (fun _ hs => hs) hE
  given s hs := hE s (h.given s hs)

/-- What the calls of a session to its cluster lead to: as long as they work, the regime `r` holds;
where one fails, the regime `e`. -/
structure Cluster.Follows (cluster : Cluster σ τ) (setup : WriterSetup) (r e : Regime σ) : Prop where
  carries : cluster.Carries r.opened
  lower : Leads r.closed (cluster.manage setup setup.tuning.windowUpdate) r.opened e.closed
  restore : Leads r.opened (cluster.manage setup setup.tuning.restoreUpdate) r.closed e.closed
  refresh : Leads r.closed (cluster.refreshIndex setup.index) r.closed e.closed
  read : ∀ id, r.Abides e (cluster.getDocument setup.index id)
  store : ∀ id body, r.Abides e (cluster.putDocument setup.index id body)
  decides : cluster.Decides r.closed e.closed

namespace Writer

variable {cluster : Cluster σ τ} {setup : WriterSetup} {r e : Regime σ}

theorem leads_ask {α : Type} {x : EStateM Failure σ α} (hf : cluster.Follows setup r e) (hx : r.Abides e x) :
    Leads (Under r) (ask cluster x) (Under r) (Under e) := by
  intro w hw
  cases hw with
  | closed hw => exact (leads_ask_closed hx.closed).weaken (fun _ => .closed) (fun _ => .closed) w hw
  | opened hw => exact (leads_ask_opened hf.carries hx.opened).weaken (fun _ => .opened) (fun _ => .opened) w hw

theorem leads_add (hf : cluster.Follows setup r e) (op : Operation) :
    Leads (Under r) (add cluster setup op) (Under r) (Under e) := by
  intro w hw
  cases hw with
  | closed hw =>
    exact (leads_add_closed op hf.lower hf.carries).weaken (fun _ => .opened) (fun _ => .closed) w hw
  | opened hw => exact (leads_add_opened op hf.carries).weaken (fun _ => .opened) (fun _ => .opened) w hw

/-- After a flush the window is closed, and the cluster is in the state that the regime asks for
then. -/
theorem leads_flush (hf : cluster.Follows setup r e) :
    Leads (Under r) (flush cluster setup) (fun w => ∃ tally, w.Closed tally r.closed)
      fun w => ∃ tally, w.Closed tally e.closed := by
  intro w hw
  cases hw with
  | closed hw => exact (leads_flush_closed hf.refresh).weaken (fun _ h => ⟨_, h⟩) (fun _ h => ⟨_, h⟩) w hw
  | opened hw => exact leads_flush_opened hf.carries hf.restore hf.refresh w hw

end Writer

end Reindex
