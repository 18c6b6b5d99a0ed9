import Reindex.Proofs.Cluster.Aligned
import Reindex.Proofs.Session.Course

/-!
# What a session accounts for

A session in which every call worked accounts for each operation that was added to it: it was
counted once, was lost with a batch that got no answer, or was given up by a flush that ran out of
time.

Main statement: `Session.conserves_operations`, for every cluster whose answers fit what was sent,
as those of both kinds of deployment do.
-/

namespace Reindex.Session

variable {σ τ : Type}

theorem start_idle {cluster : Cluster σ τ} {policy : NamingPolicy} {now : Instant} {tuning : Tuning}
    {payload : IndexPayload} {options : SessionOptions} {s : σ} {session : Session σ τ}
    (h : start cluster policy now tuning payload options s = .ok session) :
    session.writer.window = .closed {} ∧ session.drained = true := by
  obtain ⟨l, v, -, rfl⟩ := ofLifecycle_of_start h
  exact ⟨rfl, rfl⟩

/-- The course of an end that worked: nothing more is taken, and the window is closed. -/
theorem course_conclude {cluster : Cluster σ τ} {ending : Ending} {s u : Session σ τ}
    {report : Option RunSummary} (hs : s.writer.window.AtRest)
    (hu : conclude cluster ending s = .ok report u) :
    ∃ (h : History) (w : Writer σ τ), Course (Writer.Move cluster) s.writer h w ∧
      w.window = .closed u.tally ∧
      h.taken = [] ∧ (u.drained = true ↔ s.drained = true ∧ h.dropped = []) ∧
      ∀ summary ∈ report, ∃ outcome, summary = u.summary outcome := by
  cases ending with
  | close switch =>
    obtain ⟨summary, hclose, rfl⟩ := map_eq_ok hu
    rw [close_eq] at hclose
    obtain ⟨⟨⟩, v, hv, hclose⟩ := bind_eq_ok hclose
    obtain ⟨outcome, _, hdecide, hclose⟩ := bind_eq_ok hclose
    cases hclose
    obtain ⟨h, hc, ht, hclosed, -, hd⟩ := course_settle cluster hs
    rw [hv] at hc hclosed
    obtain ⟨window, drained⟩ := window_decide cluster switch (s := v) hclosed
    rw [hdecide] at window drained
    refine ⟨h, v.writer, hc, ?_, ht, ?_, ?_⟩
    · have closed : u.writer.window = .closed v.tally := window
      show v.writer.window = .closed u.writer.window.tally
      rw [closed]
      exact hclosed
    · rw [show u.drained = v.drained from drained]
      exact hd v hv
    · rintro _ ⟨⟩
      exact ⟨outcome, rfl⟩
  | abort =>
    obtain ⟨counters, v, hv, hu⟩ := bind_eq_ok hu
    cases hu
    obtain ⟨drained, _, hflush, hu⟩ := bind_eq_ok hv
    cases hu
    obtain ⟨h, hc, ht, hclosed, -, hd⟩ := course_flush cluster hs
    rw [hflush] at hc hclosed
    exact ⟨h, u.writer, hc, hclosed, ht, hd drained u hflush, fun _ hm => (by cases hm)⟩

/-- What the ledger of a session says of the operations that were added to it. -/
structure Conserved (added : List Operation) (h : History) (t : RunTally) (complete : Bool) :
    Prop where
  taken : h.taken = added
  settles : h.Settles t
  /-- The operations that were not counted were lost with a batch that got no answer, or were given
  up. -/
  total : t.counters.total + h.lost.length + h.givenUp.length = added.length
  /-- A batch is given up by a flush that ran out of time, and by nothing else. -/
  drained : complete = true ↔ h.dropped = []
  clean : complete = true → t.failed = false →
    t.counters = { succeeded := added.countP (·.kind != .delete), failed := 0
                   deleted := added.countP (·.kind == .delete) }

/-- **Conservation of operations.** -/
theorem conserves_operations :
    (MemoryCluster.cluster.Aligned ∧ ∀ client : RestClient, client.cluster.Aligned) ∧
      ∀ {σ τ : Type} (cluster : Cluster σ τ), cluster.Aligned →
        ∀ (policy : NamingPolicy) (now : Instant) (tuning : Tuning) (payload : IndexPayload)
          (options : SessionOptions) (s₀ : σ) (calls : List Call) (ending : Ending)
            (s u v : Session σ τ)
          (report : Option RunSummary),
          start cluster policy now tuning payload options s₀ = .ok s →
          performAll cluster calls s = .ok () u →
          conclude cluster ending u = .ok report v →
          (∃ (h : History) (w : Writer σ τ), Course (Writer.Move cluster) s.writer h w ∧
            w.window = .closed v.tally ∧ Conserved (added calls) h v.tally v.drained) ∧
          (∀ (h : History) (w : Writer σ τ) (t : RunTally),
            Course (Writer.Move cluster) s.writer h w →
            w.window = .closed t → h.Settles t) ∧
          ∀ summary ∈ report, summary.counters = v.tally.counters ∧
            summary.failed = v.tally.failed ∧
            summary.drained = v.drained := by
  refine ⟨⟨MemoryCluster.aligned, RestClient.aligned⟩, ?_⟩
  intro σ τ cluster aligned policy now tuning payload options s₀ calls ending s u v report hstart
    hperform hend
  obtain ⟨idle, fresh⟩ := start_idle hstart
  obtain ⟨h, hc, hr, ht, hd⟩ := course_performAll (s := s) (by rw [idle]; trivial) hperform
  obtain ⟨g, w, gc, closed, gt, gd, reported⟩ := course_conclude hr hend
  obtain ⟨settles, booked, -⟩ := Writer.settled aligned idle (hc.trans gc) closed
  have taken : History.taken (h ++ g) = added calls := by
    rw [History.taken_append, ht, gt, List.append_nil]
  have drained : v.drained = true ↔ History.dropped (h ++ g) = [] := by
    rw [gd, hd, fresh, History.dropped_append, List.append_eq_nil_iff]
    simp
  refine ⟨⟨h ++ g, w, hc.trans gc, closed, taken, settles, ?_, drained, fun hdr hf => ?_⟩, ?_, ?_⟩
  · have := settles.conserved.length_eq
    rw [taken, List.length_append, List.length_append, ← settles.total] at this
    exact this.symm
  · rw [← taken]
    exact settles.clean booked hf (drained.1 hdr)
  · intro h w t hc hw
    exact (Writer.settled aligned idle hc hw).1
  · intro summary hm
    obtain ⟨outcome, rfl⟩ := reported summary hm
    exact ⟨rfl, rfl, rfl⟩

/-- Two windows; the first operation is pushed back once. -/
theorem conserves_operations_pushed_back :
    let cluster := MemoryCluster.cluster
    let policy : NamingPolicy := ⟨"books", none, false⟩
    let calls : List Call := [.add ⟨.index, "a", some "1"⟩, .flush, .add ⟨.delete, "b", none⟩]
    ∃ s u report v, start cluster policy ⟨0, 0⟩ {} ⟨.null, .null⟩ {} { latency := 10, rejections := 1 } = .ok s ∧
      performAll cluster calls s = .ok () u ∧ conclude cluster (.close true) u = .ok report v ∧
      v.tally.counters = { succeeded := 1, failed := 0, deleted := 1 } ∧
      ∃ h w, Course (Writer.Move cluster) s.writer h w ∧ w.window = .closed v.tally ∧
        Conserved (added calls) h v.tally v.drained := by
  intro cluster policy calls
  let c : MemoryCluster := { latency := 10, rejections := 1 }
  let s : Session MemoryCluster Unit := ofLifecycle ⟨.direct "books", {}, {}, .ensured, true⟩ {}
    (stateAfter (Lifecycle.start cluster policy ⟨0, 0⟩ {} ⟨.null, .null⟩ {} c))
  have started : start cluster policy ⟨0, 0⟩ {} ⟨.null, .null⟩ {} c = .ok s := rfl
  obtain ⟨⟨⟩, performed⟩ :=
    eq_ok_of_worked (show worked (performAll cluster calls s) = true by decide +kernel)
  let u := stateAfter (performAll cluster calls s)
  obtain ⟨report, ended⟩ :=
    eq_ok_of_worked (show worked (conclude cluster (.close true) u) = true by decide +kernel)
  refine ⟨s, u, report, _, started, performed, ended, by decide +kernel, ?_⟩
  exact (conserves_operations.2 cluster MemoryCluster.aligned policy _ _ _ _ _ calls _ s u _
    report started
    performed ended).1

end Reindex.Session
