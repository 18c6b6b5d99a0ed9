import Reindex.Proofs.Writer.Course

/-!
# A writer keeps to its index

Every call that a writer makes names an index. A channel makes its bulk calls into the index that it
was opened for, and the writer opens it for its own; the other calls name that one, too. So what no
call to this one index destroys, nothing that the writer does destroys.

Main statements: `Writer.keeps_add` and `Writer.keeps_flush`.
-/

namespace Reindex

variable {σ τ : Type}

/-- What no call of a writer to one index destroys. -/
structure Cluster.Isolates (cluster : Cluster σ τ) (index : String) (P : σ → Prop) : Prop where
  beginBulk : ∀ now ops s, P s → P (cluster.beginBulk now index ops s).2
  finishBulk : ∀ ticket ops s, P s → P (cluster.finishBulk ticket index ops s).2
  refresh : Keeps P (cluster.refreshIndex index)
  settings : ∀ update, Keeps P (cluster.updateSettings index update)
  read : ∀ id, Keeps P (cluster.getDocument index id)
  store : ∀ id body, Keeps P (cluster.putDocument index id body)

variable {cluster : Cluster σ τ} {index : String} {P : σ → Prop}

/-! ## The channel -/

/-- The channel of one index, on a cluster that has the property. -/
structure Traffic.Confined (index : String) (P : σ → Prop) (t : Traffic σ τ) : Prop where
  index : t.channel.index = index
  cluster : P t.cluster

theorem Channel.index_launch (now : Nat) (c : Channel τ) : (c.launch now).index = c.index := by
  unfold launch
  split <;> rfl

theorem Traffic.Move.confined (hP : cluster.Isolates index P) {t u : Traffic σ τ} {h : History}
    (ht : t.Confined index P) (hm : Move cluster t h u) : u.Confined index P := by
  obtain ⟨rfl, ht⟩ := ht
  cases hm with
  | launch now _ => exact ⟨t.channel.index_launch now, ht⟩
  | @send f rest wait ticket s now _ _ begun =>
    have kept := hP.beginBulk now f.submission.attempt _ ht
    rw [begun] at kept
    exact ⟨rfl, kept⟩
  | @resend f g rest ticket answer s now _ _ ended _ =>
    have kept := hP.finishBulk ticket f.submission.attempt _ ht
    rw [ended] at kept
    exact ⟨rfl, kept⟩
  | @land f rest ticket answer s landing now _ _ ended _ =>
    have kept := hP.finishBulk ticket f.submission.attempt _ ht
    rw [ended] at kept
    exact ⟨rfl, kept⟩
  | _ => exact ⟨rfl, ht⟩

theorem Traffic.confined (hP : cluster.Isolates index P) {t u : Traffic σ τ} {h : History}
    (ht : t.Confined index P) (hc : Course (Move cluster) t h u) : u.Confined index P :=
  hc.invariant (I := fun _ t => t.Confined index P) ht fun ht hm => hm.confined hP ht

/-! ## The writer -/

namespace Writer

/-- A writer between two operations whose channel, if it is open, is the one of this index, on a
cluster that has the property. -/
structure Confined (index : String) (P : σ → Prop) (w : Writer σ τ) : Prop where
  atRest : w.window.AtRest
  index : ∀ channel, w.window = .opened channel → channel.index = index
  cluster : P w.cluster

theorem Confined.of_closed {w : Writer σ τ} {tally : RunTally} (hw : w.window = .closed tally)
    (hP : P w.cluster) :
    w.Confined index P where
  atRest := by rw [hw]; trivial
  index channel ho := by cases hw.symm.trans ho
  cluster := hP

theorem Confined.of_traffic {t : Traffic σ τ} (ht : t.Confined index P) (rest : t.channel.AtRest) :
    (ofTraffic t).Confined index P where
  atRest := rest
  index channel ho := by cases ho; exact ht.index
  cluster := ht.cluster

theorem Confined.traffic {w : Writer σ τ} (hw : w.Confined index P) {channel : Channel τ}
    (ho : w.window = .opened channel) : (w.traffic channel).Confined index P ∧ channel.AtRest := by
  have rest := hw.atRest
  rw [ho] at rest
  exact ⟨⟨hw.index channel ho, hw.cluster⟩, rest⟩

theorem Confined.answered {w : Writer σ τ} (hw : w.Confined index P) {s : σ} (hs : P s) :
    ({ w with cluster := s } : Writer σ τ).Confined index P := ⟨hw.atRest, hw.index, hs⟩

theorem confined_takeTurn (hP : cluster.Isolates index P) {w : Writer σ τ}
    (hw : w.Confined index P) :
    (w.takeTurn cluster).Confined index P := by
  cases ho : w.window with
  | closed tally =>
    refine .of_closed (window_takeTurn cluster ho) ?_
    rw [cluster_takeTurn cluster ho]
    exact hw.cluster
  | opened channel =>
    obtain ⟨ht, rest⟩ := hw.traffic ho
    obtain ⟨h, -, course⟩ := Traffic.course_makeReady cluster (w.traffic channel)
    have ready := Traffic.confined hP ht course
    unfold takeTurn
    rw [ho]
    exact .of_traffic ⟨ready.index, ready.cluster⟩
      (Traffic.atRest_makeReady cluster (t := w.traffic channel) rest)

/-! ### Calls besides the bulk calls -/

theorem keeps_ask (hP : cluster.Isolates index P) {α : Type} {x : EStateM Failure σ α}
    (hx : Keeps P x) :
    Keeps (Confined index P) (ask cluster x) := by
  intro w hw
  have turned := confined_takeTurn hP hw
  unfold ask
  dsimp only
  cases asked : x (w.takeTurn cluster).cluster with
  | ok a s => exact turned.answered (hx.of_ok turned.cluster asked)
  | error e s => exact turned.answered (hx.of_error turned.cluster asked)

variable {setup : WriterSetup}

theorem confined_applySettings (hP : cluster.Isolates setup.index P) (update : SettingsUpdate) :
    Keeps (Confined setup.index P) (applySettings cluster setup update) := by
  unfold applySettings
  split
  · exact keeps_ask hP (hP.settings update)
  · exact .pure ()

/-! ### Writing and flushing -/

theorem confined_ofTraffic_add (hP : cluster.Isolates index P) (op : Operation) {t : Traffic σ τ}
    (ht : t.Confined index P) (rest : t.channel.AtRest) :
    (ofTraffic (t.add cluster op)).Confined index P := by
  obtain ⟨h, course, -, -, rest⟩ := Traffic.course_add cluster op rest
  exact .of_traffic (Traffic.confined hP ht course) rest

theorem keeps_add (hP : cluster.Isolates setup.index P) (op : Operation) :
    Keeps (Confined setup.index P) (add cluster setup op) := by
  intro w hw
  cases ho : w.window with
  | opened channel =>
    obtain ⟨ht, rest⟩ := hw.traffic ho
    rw [add_of_opened cluster setup op ho]
    exact confined_ofTraffic_add hP op ht rest
  | closed tally =>
    have applied := confined_applySettings hP setup.tuning.windowUpdate w hw
    cases lowered : applySettings cluster setup setup.tuning.windowUpdate w with
    | ok a u =>
      rw [lowered] at applied
      rw [add_of_closed cluster setup op ho lowered]
      exact confined_ofTraffic_add hP op ⟨rfl, applied.cluster⟩ ⟨rfl, fun _ => rfl⟩
    | error e u =>
      rw [lowered] at applied
      have refused := openChannel_of_closed cluster setup ho
      rw [lowered] at refused
      unfold add
      rw [bind_of_error refused]
      exact applied

theorem confined_drain (hP : cluster.Isolates setup.index P) {w : Writer σ τ}
    (hw : w.Confined setup.index P) :
    (drain cluster setup w).2.Confined setup.index P := by
  unfold drain
  cases ho : w.window with
  | closed tally => exact hw
  | opened channel =>
    obtain ⟨ht, rest⟩ := hw.traffic ho
    obtain ⟨h, course, -⟩ := Traffic.course_close cluster setup.options.flushTimeout
      (t := w.traffic channel) rest
    exact .of_closed rfl (Traffic.confined hP ht course).cluster

theorem keeps_flush (hP : cluster.Isolates setup.index P) :
    Keeps (Confined setup.index P) (flush cluster setup) := by
  intro w hw
  have refreshed (drained : Bool) : Keeps (Confined setup.index P) (do
      ask cluster (cluster.refreshIndex setup.index)
      return drained : EStateM Error (Writer σ τ) Bool) := .bind (keeps_ask hP hP.refresh) fun _ =>
        .pure _
  have ended (drained : Option Bool) : Keeps (Confined setup.index P)
    (endWindow cluster setup drained) := by
    unfold endWindow
    split
    · exact .bind (confined_applySettings hP _) fun _ => refreshed _
    · exact refreshed _
  rw [flush_eq]
  exact ended _ _ (confined_drain hP hw)

end Writer

end Reindex
