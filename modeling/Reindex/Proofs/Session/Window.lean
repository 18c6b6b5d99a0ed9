import Reindex.Proofs.Bulk.Inline
import Reindex.Proofs.Cluster.Documents
import Reindex.Proofs.Session.Reliable
import Reindex.Proofs.Writer.Regime

/-!
# One bulk window of a session

A session that adds operations and flushes opens its channel with the first of them and closes it at
the end. What the session calls besides, to change settings and to refresh the index, makes no bulk
calls and writes no documents. So what a window comes to is what its channel comes to.

Main statements: `Session.window_eq`, for a session on a reliable cluster that has done nothing
else, and `Session.load_eq`, for the cluster in memory.
-/

namespace Reindex

variable {σ τ : Type}

/-- States are related if changes of the settings of the index and refreshes lead from one to the
other. -/
structure Cluster.Passes (cluster : Cluster σ τ) (index : String) (R : σ → σ → Prop) : Prop where
  refl : ∀ s, R s s
  trans : ∀ {s t u}, R s t → R t u → R s u
  settings : ∀ update s, R s (stateAfter (cluster.updateSettings index update s))
  refresh : ∀ s, R s (stateAfter (cluster.refreshIndex index s))

namespace Writer

variable {cluster : Cluster σ τ} {setup : WriterSetup} {R : σ → σ → Prop} {tally : RunTally} {c : σ}

theorem keeps_applySettings (passes : cluster.Passes setup.index R) (update : SettingsUpdate) :
    Keeps (Closed tally (R c)) (applySettings cluster setup update) := by
  have managed : Keeps (R c) (cluster.manage setup update) := by
    unfold Cluster.manage
    split
    · exact fun s hs => passes.trans hs (passes.settings update s)
    · exact .pure ()
  exact fun w hw => (leads_applySettings (.of_keeps managed)).stateAfter hw

theorem keeps_endWindow (passes : cluster.Passes setup.index R) (drained : Option Bool) :
    Keeps (Closed tally (R c)) (endWindow cluster setup drained) := by
  have refreshing : Keeps (R c) (cluster.refreshIndex setup.index) :=
    fun s hs => passes.trans hs (passes.refresh s)
  have refreshed : Keeps (Closed tally (R c)) (do
      ask cluster (cluster.refreshIndex setup.index)
      return drained.getD true : EStateM Error (Writer σ τ) Bool) :=
    .bind (fun w hw => (leads_ask_closed (.of_keeps refreshing)).stateAfter hw) fun _ => .pure _
  unfold endWindow
  split
  · exact .bind (keeps_applySettings passes _) fun _ => refreshed
  · exact refreshed

end Writer

/-- An index that is there has documents, if only none. -/
theorem MemoryCluster.docs_of_present {c : MemoryCluster} {index : String} (h : c.Present index) :
    ∃ docs, c.docs? index = some docs := by
  obtain ⟨ix, there⟩ := Dict.contains_iff.1 h
  exact ⟨ix.docs, by simp [docs?, there]⟩

/-- Neither settings nor refreshes have to do with documents. -/
theorem MemoryCluster.passes_alike (index : String) : MemoryCluster.cluster.Passes index Alike where
  refl := .refl
  trans := .trans
  settings := alike_updateSettings index
  refresh := alike_refreshIndex index

namespace Session

/-- Operations are added, and then flushed. -/
def load (cluster : Cluster σ τ) (ops : List Operation) : EStateM Error (Session σ τ) Bool := do
  performAll cluster (ops.map .add)
  flush cluster

theorem writing_of_ok {α : Type} {x : WriterSetup → EStateM Error (Writer σ τ) α}
    {s : Session σ τ} {a : α} {w : Writer σ τ} (h : x s.setup s.writer = .ok a w) :
    writing x s = .ok a { s with writer := w } := by
  unfold writing
  rw [h]

/-- Further operations of a window go to its channel. -/
theorem performAll_of_opened (cluster : Cluster σ τ) (ops : List Operation) {s : Session σ τ}
    {channel : Channel τ} (hs : s.writer.window = .opened channel) :
    performAll cluster (ops.map .add) s =
      .ok () { s with writer := .ofTraffic ((s.writer.traffic channel).addAll cluster ops) } := by
  induction ops generalizing s channel with
  | nil =>
    show EStateM.Result.ok () s = _
    rw [show Traffic.addAll cluster [] (s.writer.traffic channel) =
      s.writer.traffic channel from rfl,
      Writer.ofTraffic_traffic hs]
  | cons op ops ih =>
    let next := (s.writer.traffic channel).add cluster op
    have first : perform cluster (.add op) s = .ok () { s with writer := .ofTraffic next } :=
      writing_of_ok (x := fun setup => Writer.add cluster setup op)
        (Writer.add_of_opened cluster s.setup op hs)
    exact (bind_of_ok first _).trans (ih (s := { s with writer := .ofTraffic next }) rfl)

/-- A flush of a writer between two operations closes the channel, and says what became of that. -/
theorem flush_eq {cluster : Cluster σ τ} {P : σ → Prop} {R : σ → σ → Prop} {s : Session σ τ}
    (reliable : cluster.Reliable s.setup.index P) (passes : cluster.Passes s.setup.index R)
    (hs : s.writer.Ready P) :
    let drained := Writer.drain cluster s.setup s.writer
    ∃ u, flush cluster s = .ok (drained.1.getD true) u ∧ u.tally = drained.2.tally ∧
      R drained.2.cluster u.writer.cluster := by
  intro drained
  obtain ⟨-, -, -, -, closed⟩ := Writer.course_drain cluster s.setup hs.atRest
  obtain ⟨answer, flushed⟩ := eq_ok_of_worked (Writer.worked_flush reliable hs)
  generalize stateAfter (Writer.flush cluster s.setup s.writer) = w at flushed
  have said := flushed
  rw [Writer.flush_eq] at said
  have kept := (Writer.keeps_endWindow passes drained.1).of_ok
    (P := Writer.Closed drained.2.tally (R drained.2.cluster)) ⟨closed, passes.refl _⟩ said
  rw [Writer.answer_endWindow said] at flushed
  refine ⟨_, bind_of_ok (writing_of_ok (x := Writer.flush cluster) flushed) _, ?_, kept.cluster⟩
  show w.window.tally = _
  rw [kept.window]
  rfl

/-- A channel that took nothing has nothing to close. -/
theorem close_of_fresh (cluster : Cluster σ τ) (timeout : Nat) {t : Traffic σ τ}
    (hb : t.channel.buffer = #[]) (hf : t.channel.flights = []) (hl : t.channel.landed = []) :
    (t.close cluster timeout).1 = true ∧ (t.close cluster timeout).2.cluster = t.cluster ∧
      (t.close cluster timeout).2.channel.tally = t.channel.tally := by
  have reaped : t.reap = t := by
    unfold Traffic.reap
    rw [hl]
    simp [Traffic.book_of_no_landed hl]
  have sent (tooLate : Nat → Bool) : t.dispatch cluster tooLate = (true, t) := by
    unfold Traffic.dispatch
    rw [reaped]
    dsimp only
    rw [hb]
    rfl
  unfold Traffic.close
  dsimp only
  rw [sent, if_pos rfl, Traffic.await_of_no_flights cluster _ hf, if_pos rfl]
  exact ⟨rfl, rfl, by simp [Traffic.onChannel, Channel.bookLanded, hl]⟩

/-- **A window of a session** is its channel from the opening to the closing. -/
theorem window_eq {cluster : Cluster σ τ} {P : σ → Prop} {R : σ → σ → Prop} (l : Lifecycle)
    (options : WriterOptions) (reliable : cluster.Reliable l.identity.index P)
    (passes : cluster.Passes l.identity.index R) {c : σ} (hc : P c) (ops : List Operation) :
    ∃ (t : Traffic σ τ) (s : Session σ τ),
      t.channel = .ofTally l.identity.index l.tuning.limits options.backoff {} ∧ R c t.cluster ∧
        let closed := (t.addAll cluster ops).close cluster options.flushTimeout
        load cluster ops (ofLifecycle l options c) = .ok closed.1 s ∧
          s.tally = closed.2.channel.tally ∧ R closed.2.cluster s.writer.cluster := by
  let begun : Session σ τ := ofLifecycle l options c
  have ready : begun.writer.Ready P := ⟨hc, trivial⟩
  cases ops with
  | nil =>
    let t : Traffic σ τ :=
      { channel := .ofTally l.identity.index l.tuning.limits options.backoff {}, now := 0,
        cluster := c }
    obtain ⟨s, flushed, tally, behind⟩ := flush_eq (s := begun) reliable passes ready
    obtain ⟨closed, left, booked⟩ :=
      close_of_fresh cluster options.flushTimeout (t := t) rfl rfl rfl
    refine ⟨t, s, rfl, passes.refl c, ?_⟩
    rw [show t.addAll cluster [] = t from rfl]
    dsimp only
    rw [closed, left, booked]
    exact ⟨flushed, tally, behind⟩
  | cons op ops =>
    have works :
      worked (Writer.applySettings cluster begun.setup begun.setup.tuning.windowUpdate
        begun.writer) = true :=
      Writer.worked_applySettings reliable _ ready
    obtain ⟨⟨⟩, applied⟩ := eq_ok_of_worked works
    generalize stateAfter
      (Writer.applySettings _ begun.setup begun.setup.tuning.windowUpdate begun.writer) = u
        at applied
    have lowering : Keeps (Writer.Closed {} (R c)) (Writer.applySettings cluster begun.setup _) :=
      Writer.keeps_applySettings passes begun.setup.tuning.windowUpdate
    have lowered := lowering.of_ok ⟨rfl, passes.refl c⟩ applied
    let channel : Channel τ := .ofTally l.identity.index l.tuning.limits options.backoff {}
    let t : Traffic σ τ := u.traffic channel
    let full : Traffic σ τ := t.addAll cluster (op :: ops)
    have first : perform cluster (.add op) begun = .ok ()
      { begun with writer := .ofTraffic (t.add cluster op) } :=
      writing_of_ok (x := fun setup => Writer.add cluster setup op)
        (Writer.add_of_closed cluster begun.setup op rfl applied)
    have performed : performAll cluster ((op :: ops).map .add) begun = .ok ()
      { begun with writer := .ofTraffic full } :=
      (bind_of_ok first _).trans (performAll_of_opened cluster ops
        (s := { begun with writer := .ofTraffic (t.add cluster op) }) rfl)
    obtain ⟨h, course, rest, -⟩ := course_performAll ready.atRest performed
    obtain ⟨s, flushed, tally, behind⟩ :=
      flush_eq (s := { begun with writer := .ofTraffic full }) reliable passes
      ⟨Writer.steady reliable.steady ready.cluster course, rest⟩
    exact ⟨t, s, rfl, lowered.cluster, (bind_of_ok performed _).trans flushed, tally, behind⟩

/-- On the cluster in memory the documents are those that the channel leaves. -/
theorem load_eq (l : Lifecycle) (options : WriterOptions) {c : MemoryCluster}
    (hc : c.Present l.identity.index) (ops : List Operation) :
    ∃ (t : Traffic MemoryCluster Unit) (s : Session MemoryCluster Unit),
      t.channel = .ofTally l.identity.index l.tuning.limits options.backoff {} ∧ c.Alike t.cluster ∧
        let closed :=
          (t.addAll MemoryCluster.cluster ops).close MemoryCluster.cluster options.flushTimeout
        load MemoryCluster.cluster ops (ofLifecycle l options c) = .ok closed.1 s ∧
          s.tally = closed.2.channel.tally ∧ closed.2.cluster.Alike s.writer.cluster :=
  window_eq l options (MemoryCluster.reliable _) (MemoryCluster.passes_alike _) hc ops

end Session

end Reindex
