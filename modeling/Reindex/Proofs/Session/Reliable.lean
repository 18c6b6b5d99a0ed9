import Reindex.Proofs.Cluster.Reliable
import Reindex.Proofs.Session.Course

/-!
# Sessions that are not failed

On a cluster that is reliable for its index, no call of a session is refused: every operation is
added, and every flush goes through. Batches may still fail, and a flush may still run out of time.

Main statement: `Session.performAll_works`.
-/

namespace Reindex

variable {σ τ : Type}

namespace Writer

/-- Between two operations, in a state of the cluster with the property. -/
structure Ready (P : σ → Prop) (w : Writer σ τ) : Prop where
  cluster : P w.cluster
  atRest : w.window.AtRest

variable {cluster : Cluster σ τ} {P : σ → Prop} {setup : WriterSetup}

theorem Quiet.ready {ε α : Type} {x : EStateM ε (Writer σ τ) α} (hx : Quiet cluster x)
    (hP : cluster.Steady P) {w : Writer σ τ} (hw : w.Ready P) : (stateAfter (x w)).Ready P := by
  obtain ⟨h, -, -, hc, hr⟩ := hx w hw.atRest
  exact ⟨steady hP hw.cluster hc, hr⟩

theorem worked_ask {α : Type} {x : EStateM Failure σ α} (hP : cluster.Steady P)
    (hx : ∀ s, P s → worked (x s) = true) {w : Writer σ τ} (hw : w.Ready P) :
    worked (ask cluster x w) = true := by
  obtain ⟨h, -, -, hc, -⟩ := course_takeTurn cluster hw.atRest
  obtain ⟨a, answered⟩ := eq_ok_of_worked (hx _ (steady hP hw.cluster hc))
  unfold ask
  dsimp only
  rw [answered]
  rfl

theorem worked_applySettings (hr : cluster.Reliable setup.index P) (update : SettingsUpdate)
    {w : Writer σ τ} (hw : w.Ready P) : worked (applySettings cluster setup update w) = true := by
  unfold applySettings
  split
  · exact worked_ask hr.steady (hr.settings update) hw
  · rfl

theorem worked_add (hr : cluster.Reliable setup.index P) (op : Operation) {w : Writer σ τ}
    (hw : w.Ready P) :
    worked (add cluster setup op w) = true := by
  have opened : worked (openChannel cluster setup w) = true := by
    cases ho : w.window with
    | opened channel =>
      rw [openChannel_of_opened cluster setup ho]
      rfl
    | closed tally =>
      obtain ⟨⟨⟩, applied⟩ := eq_ok_of_worked (worked_applySettings hr setup.tuning.windowUpdate hw)
      rw [openChannel_of_closed cluster setup ho, applied]
      rfl
  exact worked_bind opened fun _ => rfl

theorem worked_flush (hr : cluster.Reliable setup.index P) {w : Writer σ τ} (hw : w.Ready P) :
    worked (flush cluster setup w) = true := by
  obtain ⟨h, hc, -, -, closed⟩ := course_drain cluster setup hw.atRest
  have drained : (drain cluster setup w).2.Ready P :=
    ⟨steady hr.steady hw.cluster hc, by rw [closed]; trivial⟩
  have refreshed : ∀ (answer : Bool) (u : Writer σ τ), u.Ready P →
      worked ((do ask cluster (cluster.refreshIndex setup.index); return answer :
        EStateM Error _ Bool) u) = true :=
    fun answer u hu => worked_bind (worked_ask hr.steady hr.refresh hu) fun _ => rfl
  rw [flush_eq]
  unfold endWindow
  split
  · refine worked_bind (worked_applySettings hr _ drained) fun _ => refreshed _ _ ?_
    exact (quiet_applySettings cluster setup setup.tuning.restoreUpdate).ready hr.steady drained
  · exact refreshed _ _ drained

end Writer

namespace Session

variable {cluster : Cluster σ τ} {P : σ → Prop}

theorem worked_writing {α : Type} (x : WriterSetup → EStateM Error (Writer σ τ) α) {s : Session σ τ}
    (hx : worked (x s.setup s.writer) = true) : worked (writing x s) = true := by
  obtain ⟨a, worked⟩ := eq_ok_of_worked hx
  unfold writing
  rw [worked]
  rfl

theorem worked_asking {α : Type} (x : Lifecycle → EStateM Failure σ α) {s : Session σ τ}
    (hP : cluster.Steady P) (hx : ∀ c, P c → worked (x s.lifecycle c) = true)
    (hs : s.writer.Ready P) :
    worked (asking cluster (fun l => call (x l)) s) = true := by
  obtain ⟨h, -, -, hc, -⟩ := Writer.course_takeTurn cluster hs.atRest
  obtain ⟨a, answered⟩ := eq_ok_of_worked (hx _ (Writer.steady hP hs.cluster hc))
  unfold asking call EStateM.adaptExcept
  dsimp only
  rw [answered]
  rfl

theorem worked_flush {s : Session σ τ} (hr : cluster.Reliable s.lifecycle.identity.index P)
    (hs : s.writer.Ready P) :
    worked (flush cluster s) = true :=
  worked_bind (worked_writing (Writer.flush cluster) (Writer.worked_flush hr hs)) fun _ => rfl

theorem worked_perform {s : Session σ τ} (hr : cluster.Reliable s.lifecycle.identity.index P)
    (hs : s.writer.Ready P) (c : Call) : worked (perform cluster c s) = true := by
  cases c with
  | add op =>
    exact worked_writing (fun setup => Writer.add cluster setup op) (Writer.worked_add hr op hs)
  | flush => exact worked_bind (worked_flush hr hs) fun _ => rfl
  | read id =>
    have read := worked_asking (fun l => cluster.getDocument l.identity.index id) hr.steady
      (hr.read id) hs
    exact worked_bind read fun _ => rfl
  | store id body =>
    exact worked_asking (fun l => cluster.putDocument l.identity.index id body) hr.steady
      (hr.store id body) hs

/-- **On a reliable cluster every call works.** -/
theorem performAll_works {s : Session σ τ} (hr : cluster.Reliable s.lifecycle.identity.index P)
    (hs : s.writer.Ready P) (calls : List Call) : ∃ u, performAll cluster calls s = .ok () u := by
  induction calls generalizing s with
  | nil => exact ⟨s, rfl⟩
  | cons c calls ih =>
    obtain ⟨⟨⟩, first⟩ := eq_ok_of_worked (worked_perform hr hs c)
    obtain ⟨h, hp⟩ := performed cluster c hs.atRest
    obtain ⟨u, others⟩ := ih (s := stateAfter (perform cluster c s)) (hp.lifecycle ▸ hr)
      ⟨Writer.steady hr.steady hs.cluster hp.course, hp.atRest⟩
    exact ⟨u, (bind_of_ok first _).trans others⟩

end Session

end Reindex
