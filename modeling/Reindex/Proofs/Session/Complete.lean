import Reindex.Proofs.Cluster.Aligned
import Reindex.Proofs.Lifecycle.InMemory
import Reindex.Proofs.Lifecycle.Switch
import Reindex.Proofs.Session.Conservation
import Reindex.Proofs.Session.Reliable
import Reindex.Proofs.Writer.Acknowledged

/-!
# How complete a switched index is

A session that moves its alias had no failure in its ledger, but a flush that runs out of time gives
batches up without a mark in the ledger, and the alias moves all the same. So a switched index holds
what was added to it exactly where no flush ran out of time. A flush that does books what has ended
by then; where the end of a batch comes while others are being given up and is thrown away with
them, as `Traffic.Stride.discard` allows, the index holds more than the ledger tells.

Main statement: `Session.switched_complete_iff`, for the cluster in memory.
-/

namespace Reindex

variable {σ τ : Type}

namespace Session

/-- The course of a session from its calls to its closing. -/
theorem course_closed {cluster : Cluster σ τ} {calls : List Call} {s u v : Session σ τ}
    {switch : Bool} {summary : RunSummary} (hs : s.writer.window.AtRest)
    (hu : performAll cluster calls s = .ok () u) (hv : close cluster switch u = .ok summary v) :
    ∃ (h : History) (w : Writer σ τ), Course (Writer.Move cluster) s.writer h w ∧
      w.window = .closed v.tally ∧
      h.taken = added calls ∧ (v.drained = true ↔ s.drained = true ∧ h.dropped = []) := by
  obtain ⟨h₁, c₁, rest, t₁, d₁⟩ := course_performAll hs hu
  obtain ⟨h₂, w, c₂, closed, t₂, d₂, -⟩ :=
    course_conclude rest (((conclude_close cluster switch u).2 summary v).2 hv)
  refine ⟨h₁ ++ h₂, w, c₁.trans c₂, closed, ?_, ?_⟩
  · rw [History.taken_append, t₁, t₂, List.append_nil]
  · rw [d₂, d₁, History.dropped_append, List.append_eq_nil_iff, and_assoc]

/-- The summary of a closing is about the session that it leaves. -/
theorem drained_close {cluster : Cluster σ τ} {s v : Session σ τ} {switch : Bool}
    {summary : RunSummary} (h : close cluster switch s = .ok summary v) :
    summary.drained = v.drained := by
  rw [close_eq] at h
  obtain ⟨⟨⟩, _, -, h⟩ := bind_eq_ok h
  obtain ⟨outcome, _, -, h⟩ := bind_eq_ok h
  cases h
  rfl

/-- A closing that moved the alias found a clean ledger. -/
theorem clean_of_close {cluster : Cluster σ τ} {s v : Session σ τ} {summary : RunSummary}
    (hs : s.writer.window.AtRest) (h : close cluster true s = .ok summary v)
    (switched : summary.outcome.isSwitched = true) : v.tally.Clean := by
  obtain ⟨-, d, -, same, decided⟩ := switchIndex_of_close hs h
  exact same ▸ Lifecycle.clean_of_switched decided switched

theorem ready_of_start {policy : NamingPolicy} {now : Instant} {tuning : Tuning}
    {payload : IndexPayload} {options : SessionOptions} {c : MemoryCluster}
    {s : Session MemoryCluster Unit}
    (h : start MemoryCluster.cluster policy now tuning payload options c = .ok s) :
    s.writer.Ready (MemoryCluster.Present s.lifecycle.identity.index) := by
  obtain ⟨l, v, hl, rfl⟩ := ofLifecycle_of_start h
  exact ⟨Lifecycle.present_of_start hl, trivial⟩

/-- **When a switched index is complete.** Every operation that was added was acknowledged, or was
given up by a flush that ran out of time; and where the alias moved, the summary tells whether there
are any of the latter. -/
theorem switched_complete_iff {policy : NamingPolicy} {now : Instant} {tuning : Tuning}
    {payload : IndexPayload} {options : SessionOptions} {c : MemoryCluster}
    {s : Session MemoryCluster Unit}
    (hs : start MemoryCluster.cluster policy now tuning payload options c = .ok s)
    (calls : List Call) :
    ∃ u, performAll MemoryCluster.cluster calls s = .ok () u ∧
      ∀ summary v, close MemoryCluster.cluster true u = .ok summary v →
        summary.outcome.isSwitched = true →
        (∃ (h : History) (w : Writer MemoryCluster Unit),
          Course (Writer.Move MemoryCluster.cluster) s.writer h w ∧
          w.window = .closed v.tally ∧ h.taken = added calls) ∧
        ∀ (h : History) (w : Writer MemoryCluster Unit), Course (Writer.Move MemoryCluster.cluster)
          s.writer h w →
          w.window = .closed v.tally → h.taken = added calls →
          (h.acknowledged ++ h.missing).Perm (added calls) ∧
            (h.acknowledged.Perm (added calls) ↔ summary.drained = true) := by
  have ready := ready_of_start hs
  obtain ⟨idle, fresh⟩ := start_idle hs
  obtain ⟨u, performed⟩ := performAll_works (MemoryCluster.reliable _) ready calls
  refine ⟨u, performed, fun summary v closing switched => ?_⟩
  obtain ⟨g, w, course, closed, taken, dropped⟩ := course_closed ready.atRest performed closing
  obtain ⟨_, -, rest, -⟩ := course_performAll ready.atRest performed
  have clean := (clean_of_close rest closing switched).unmarked
  have drained : v.drained = true ↔ v.tally.counters.total = (added calls).length := by
    obtain ⟨-, -, total⟩ :=
      Writer.acknowledged MemoryCluster.candid MemoryCluster.aligned idle course closed clean
    rw [← taken, ← total, dropped, fresh]
    simp
  refine ⟨⟨g, w, course, closed, taken⟩, fun h w hc hw ht => ?_⟩
  obtain ⟨perm, none, total⟩ :=
    Writer.acknowledged MemoryCluster.candid MemoryCluster.aligned idle hc hw clean
  rw [ht] at perm total
  refine ⟨perm, ?_⟩
  rw [drained_close closing, drained, ← total, ← none]
  constructor
  · intro all
    have length := perm.length_eq
    rw [List.length_append, all.length_eq] at length
    exact List.length_eq_zero_iff.1 (by omega)
  · intro all
    rwa [all, List.append_nil] at perm

/-- What a session tells at its end, after these calls: whether the alias moved, whether no flush
ran out of time, and the ledger. -/
def told (cluster : Cluster σ τ) (calls : List Call) (s : Session σ τ) :
    Option (Bool × Bool × RunTally) :=
  match close cluster true (stateAfter (performAll cluster calls s)) with
  | .ok summary v => some (summary.outcome.isSwitched, summary.drained, v.tally)
  | .error _ _ => none

theorem close_of_told {cluster : Cluster σ τ} {calls : List Call} {s u : Session σ τ} {switched drained : Bool}
    {tally : RunTally} (hu : performAll cluster calls s = .ok () u)
    (h : told cluster calls s = some (switched, drained, tally)) :
    ∃ summary v, close cluster true u = .ok summary v ∧ summary.outcome.isSwitched = switched ∧
      summary.drained = drained ∧ v.tally = tally := by
  unfold told at h
  rw [hu] at h
  split at h
  · rename_i summary v closed
    cases h
    exact ⟨summary, v, closed, rfl, rfl, rfl⟩
  · cases h

/-- A session in time, though its first operation is pushed back. -/
theorem switched_complete_iff_in_time :
    let cluster := MemoryCluster.cluster
    let policy : NamingPolicy := ⟨"books", some ⟨"'2'", [.literal ['2']]⟩, false⟩
    let calls : List Call := [.add ⟨.index, "a", some "1"⟩, .add ⟨.index, "b", some "1"⟩]
    ∃ s u summary v,
      start cluster policy ⟨0, 0⟩ { bulkActions := 1 } ⟨.null, .null⟩ {} { latency := 10, rejections := 1 } = .ok s ∧
      performAll cluster calls s = .ok () u ∧ close cluster true u = .ok summary v ∧
      summary.outcome.isSwitched = true ∧
      ∃ (h : History) (w : Writer MemoryCluster Unit), Course (Writer.Move cluster) s.writer h w ∧
        w.window = .closed v.tally ∧ h.acknowledged.Perm (added calls) := by
  intro cluster policy calls
  let started := start cluster policy ⟨0, 0⟩ { bulkActions := 1 } ⟨.null, .null⟩ {} { latency := 10, rejections := 1 }
  have told : started.toOption.map (told cluster calls) =
    some (some (true, true, ⟨{ succeeded := 2 }, false⟩)) := by
    decide +kernel
  cases hs : started with
  | error e =>
    rw [hs] at told
    cases told
  | ok s =>
    rw [hs] at told
    obtain ⟨u, performed, complete⟩ := switched_complete_iff hs calls
    obtain ⟨summary, v, closed, switched, drained, -⟩ :=
      close_of_told performed (Option.some.inj told)
    obtain ⟨⟨h, w, course, window, taken⟩, all⟩ := complete summary v closed switched
    exact ⟨s, u, summary, v, hs, performed, closed, switched, h, w, course, window,
      (all h w course window taken).2.2 drained⟩

/-- **A half full index goes live.** The flush at the end has no time to wait for the second of two
batches, which is given up; the alias moves, though nothing that the session did can have had both
operations acknowledged. -/
theorem switched_half_full :
    let cluster := MemoryCluster.cluster
    let policy : NamingPolicy := ⟨"books", some ⟨"'2'", [.literal ['2']]⟩, false⟩
    let calls : List Call := [.add ⟨.index, "a", some "1"⟩, .add ⟨.index, "b", some "1"⟩]
    ∃ s u summary v, start cluster policy ⟨0, 0⟩ { bulkActions := 1, bulkRequests := 1 }
      ⟨.null, .null⟩
        { writer := { flushTimeout := 5 } } { latency := 10 } = .ok s ∧
      performAll cluster calls s = .ok () u ∧ close cluster true u = .ok summary v ∧
      summary.outcome.isSwitched = true ∧
      (∃ (h : History) (w : Writer MemoryCluster Unit), Course (Writer.Move cluster) s.writer h w ∧
        w.window = .closed v.tally ∧ h.taken = added calls) ∧
      ∀ (h : History) (w : Writer MemoryCluster Unit), Course (Writer.Move cluster) s.writer h w →
        w.window = .closed v.tally → h.taken = added calls →
          ¬ h.acknowledged.Perm (added calls) := by
  intro cluster policy calls
  let started := start cluster policy ⟨0, 0⟩ { bulkActions := 1, bulkRequests := 1 } ⟨.null, .null⟩
    { writer := { flushTimeout := 5 } } { latency := 10 }
  have told : started.toOption.map (told cluster calls) =
    some (some (true, false, ⟨{ succeeded := 1 }, false⟩)) := by
    decide +kernel
  cases hs : started with
  | error e =>
    rw [hs] at told
    cases told
  | ok s =>
    rw [hs] at told
    have ready := ready_of_start hs
    obtain ⟨u, performed⟩ := performAll_works (MemoryCluster.reliable _) ready calls
    obtain ⟨summary, v, closed, switched, -, tally⟩ :=
      close_of_told performed (Option.some.inj told)
    obtain ⟨g, x, course, window, taken, -⟩ := course_closed ready.atRest performed closed
    refine ⟨s, u, summary, v, hs, performed, closed, switched, ⟨g, x, course, window, taken⟩, ?_⟩
    intro h w hc hw ht all
    rw [tally] at hw
    obtain ⟨perm, none, total⟩ :=
      Writer.acknowledged MemoryCluster.candid MemoryCluster.aligned (start_idle hs).1 hc hw rfl
    have length := perm.length_eq
    rw [ht, List.length_append, all.length_eq] at length
    have missing : h.missing = [] := List.length_eq_zero_iff.1 (by omega)
    have counted := total.1 (none.1 missing)
    rw [ht] at counted
    cases counted

end Session

end Reindex
