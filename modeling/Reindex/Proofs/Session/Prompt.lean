import Reindex.Proofs.Cluster.Untraced
import Reindex.Proofs.Session.AnyOrder
import Reindex.Proofs.Session.Complete

/-!
# Sessions with nothing in the way

On a cluster in memory that answers at once and refuses no bulk call, whatever a session added is
carried out by the end of its next flush, however little time the flush has: each operation is sent
and answered once, and booked once. The order is that of the answers, and the documents and the
ledger are the work of the operations in this order.

Main statement: `Session.carried_load`.
-/

namespace Reindex

namespace MemoryCluster

/-- Nothing is in the way of a bulk call, and it takes no time. -/
structure Swift (c : MemoryCluster) : Prop where
  quiet : c.Quiet
  latency : c.latency = 0

theorem Alike.swift {c d : MemoryCluster} (h : Alike c d) (hc : c.Swift) : d.Swift :=
  ⟨h.quiet hc.quiet, h.latency.trans hc.latency⟩

/-- **Such a cluster is prompt.** -/
theorem prompt : cluster.Prompt Swift where
  carries :=
    { beginBulk := fun _ _ _ _ h => h
      finishBulk := fun _ key ops c h => by
        have answer := (bulk_quiet h.quiet key (.ofOperations ops {})).1
        rw [Submission.attempt_ofOperations] at answer
        show (bulk key ops c).2.Swift
        rw [answer]
        exact ⟨h.quiet.written key _ ops, h.latency⟩ }
  lands index now _ _ h sending := run_quiet h.quiet h.latency index now sending

/-- Between these states no bulk call was made and no document was written. -/
structure Unwritten (w v : Traced MemoryCluster) : Prop where
  alike : w.state.Alike v.state
  sent : sentCalls v.trace = sentCalls w.trace
  answered : answeredCalls v.trace = answeredCalls w.trace

theorem unwritten_record {call : ClusterCall} {x : EStateM Failure MemoryCluster Unit}
    (other : ∀ accepted, ClusterEvent.isBulk ⟨call, accepted⟩ = false)
    (alike : ∀ c, Alike c (stateAfter (x c))) (w : Traced MemoryCluster) :
    Unwritten w (stateAfter (Traced.record call x w)) := by
  have none : sentCalls [⟨call, worked (x w.state)⟩] = [] ∧
    answeredCalls [⟨call, worked (x w.state)⟩] = [] :=
    calls_of_no_bulk fun e he => by
      rw [List.mem_singleton.1 he]
      exact other _
  refine ⟨?_, ?_, ?_⟩
  · rw [(Traced.mirrors_record call x).stateAfter w]
    exact alike w.state
  · rw [Traced.trace_record, sentCalls_append, none.1, List.append_nil]
  · rw [Traced.trace_record, answeredCalls_append, none.2, List.append_nil]

theorem passes_unwritten (index : String) : cluster.traced.Passes index Unwritten where
  refl w := ⟨.refl w.state, rfl, rfl⟩
  trans h₁ h₂ := ⟨h₁.alike.trans h₂.alike, h₂.sent.trans h₁.sent, h₂.answered.trans h₁.answered⟩
  settings update w := unwritten_record (fun _ => rfl) (alike_updateSettings index update) w
  refresh w := unwritten_record (fun _ => rfl) (alike_refreshIndex index) w

end MemoryCluster

/-- The operations of bulk calls. -/
def callOperations (calls : List (String × List Operation)) : List Operation :=
  calls.flatMap Prod.snd

theorem History.operations_calls (index : String) (h : History) :
    callOperations (h.calls index) = (h.answers.map Prod.fst).flatten := by
  unfold callOperations History.calls
  rw [List.flatMap_map, List.flatMap_def]

namespace Session

/-- **What became of some operations** between two times at which nothing of a session was under
way: these bulk calls were made for them, and this is the ledger. -/
structure Carried (index : String) (ops : List Operation) (calls : List (String × List Operation))
    (w v : Traced MemoryCluster) (tally : RunTally) : Prop where
  /-- Each operation is in one of the calls, and nothing else is. -/
  operations : (callOperations calls).Perm ops
  into : ∀ call ∈ calls, call.1 = index
  /-- These calls were sent and no others. -/
  sent : (sentCalls v.trace).Perm (sentCalls w.trace ++ calls)
  /-- They were answered in this order, each once. -/
  answered : answeredCalls v.trace = answeredCalls w.trace ++ calls
  /-- Documents and ledger are the work of their operations, one after another. -/
  executed : Accounted.executeAll w.state.failingIds (callOperations calls)
    ⟨w.state.docs? index, {}⟩ =
    ⟨v.state.docs? index, tally⟩
  /-- Nothing was written into other indices. -/
  others : ∀ other, other ≠ index → v.state.docs? other = w.state.docs? other

variable {index : String} {ops : List Operation} {calls : List (String × List Operation)}
    {w t u v : Traced MemoryCluster} {tally : RunTally}

/-- Each operation is in the ledger once. -/
theorem Carried.booked (h : Carried index ops calls w v tally) :
    tally.counters.total = ops.length := by
  have total := Accounted.total_executeAll w.state.failingIds (callOperations calls)
    ⟨w.state.docs? index, {}⟩
  rw [h.executed, h.operations.length_eq] at total
  exact total.trans (Nat.zero_add _)

open MemoryCluster (Swift Unwritten)

/-- A channel on such a cluster, from its opening to its closing. -/
theorem carried_closed {limits : BatchLimits} {backoff : BackoffPolicy}
    {t : Traffic (Traced MemoryCluster) Unit} (swift : t.cluster.state.Swift)
    (fresh : t.channel = .ofTally index limits backoff {}) (ops : List Operation) {timeout : Nat}
    (some : 0 < timeout) :
    let closed :=
      (t.addAll MemoryCluster.cluster.traced ops).close MemoryCluster.cluster.traced timeout
    closed.1 = true ∧
      ∃ calls, Carried index ops calls t.cluster closed.2.cluster closed.2.channel.tally := by
  intro closed
  have prompt := MemoryCluster.prompt.traced
  have idle : t.channel.flights = [] := by rw [fresh]; rfl
  have due : t.Due fun w : Traced MemoryCluster => w.state.Swift :=
    ⟨swift, fun f hf => by rw [idle] at hf; cases hf⟩
  have inTime : closed.1 = true :=
    Traffic.close_prompt prompt some (Traffic.addAll_prompt prompt ops due)
  -- its course gives nothing up
  have start : t.channel.AtRest := by rw [fresh]; exact ⟨rfl, fun _ => rfl⟩
  obtain ⟨h, adding, taken, kept, rest⟩ :=
    Traffic.course_addAll MemoryCluster.cluster.traced ops start
  obtain ⟨g, closing, nothing, empty, dropped⟩ :=
    Traffic.course_close MemoryCluster.cluster.traced timeout rest
  have course := adding.trans closing
  have none : (h ++ g).dropped = [] := by rw [History.dropped_append, kept, dropped.1 inTime]; rfl
  have all : (h ++ g).taken = ops := by rw [History.taken_append, taken, nothing, List.append_nil]
  obtain ⟨answered, sent⟩ := Traffic.calls_of_course course idle empty.flights none
  rw [show t.channel.index = index by rw [fresh]; rfl] at answered sent
  -- the cluster below takes the same course
  have bare := Traffic.course_untraced course
  have served : MemoryCluster.Served t.cluster.state index (h ++ g) closed.2.untraced :=
    bare.invariant (MemoryCluster.served_start t.cluster.state rfl fresh) fun before hm =>
      MemoryCluster.served_move swift.quiet before hm
  obtain ⟨conserved, ledger⟩ :=
    Traffic.settled MemoryCluster.aligned (t := t.untraced) fresh bare empty
  have order : (h ++ g).ended.Perm ops := by
    have givenUp : (h ++ g).givenUp = [] := by simp [History.givenUp, none]
    rw [all, givenUp, List.append_nil] at conserved
    exact conserved.symm
  have operations : callOperations ((h ++ g).calls index) = (h ++ g).ended := by
    rw [History.operations_calls, served.answers]
    exact (List.flatMap_def ..).symm
  have into : ∀ call ∈ (h ++ g).calls index, call.1 = index := fun call hc => by
    obtain ⟨_, -, rfl⟩ := List.mem_map.1 hc
    rfl
  obtain ⟨log, written⟩ := served.cluster
  have written : closed.2.cluster.state = t.cluster.state.written index log (h ++ g).ended :=
    written
  have tally : closed.2.channel.tally =
      (Accounted.executeAll t.cluster.state.failingIds (h ++ g).ended ⟨t.cluster.state.docs? index,
        {}⟩).tally :=
    ledger.trans served.tally
  refine ⟨inTime, _, operations ▸ order, into, sent, answered, ?_, fun other elsewhere => ?_⟩
  · rw [operations, tally, written, MemoryCluster.docs?_written,
      ← Accounted.docs_executeAll _ _ ⟨_, {}⟩]
  · rw [written, MemoryCluster.docs?_written_of_ne _ log _ elsewhere]

/-- The same, seen from before the settings were changed to after they were put back. -/
theorem Carried.between (before : Unwritten w t) (h : Carried index ops calls t u tally)
    (after : Unwritten u v) :
    Carried index ops calls w v tally := by
  refine ⟨h.operations, h.into, ?_, ?_, ?_, fun other elsewhere => ?_⟩
  · rw [after.sent, ← before.sent]
    exact h.sent
  · rw [after.answered, ← before.answered]
    exact h.answered
  · rw [after.alike.docs, ← before.alike.docs, ← before.alike.failingIds]
    exact h.executed
  · rw [after.alike.docs, h.others other elsewhere, before.alike.docs]

/-- **With nothing in the way all that was added is carried out.** A session that has done nothing
else can add the operations and flush; the flush is in time, though it may have a single
millisecond. -/
theorem carried_load (l : Lifecycle) {options : WriterOptions} (some : 0 < options.flushTimeout)
    (present : w.state.Present l.identity.index) (swift : w.state.Swift) (ops : List Operation) :
    ∃ u v calls,
      performAll MemoryCluster.cluster.traced (ops.map .add) (ofLifecycle l options w) = .ok () u ∧
      flush MemoryCluster.cluster.traced u = .ok true v ∧
      Carried l.identity.index ops calls w v.writer.cluster v.tally := by
  obtain ⟨t, v, fresh, before, loaded, tally, after⟩ :=
    window_eq l options (MemoryCluster.reliable _).traced (MemoryCluster.passes_unwritten _)
      present ops
  obtain ⟨inTime, calls, carried⟩ := carried_closed (before.alike.swift swift) fresh ops some
  obtain ⟨⟨⟩, u, performed, flushed⟩ := bind_eq_ok loaded
  rw [inTime] at flushed
  rw [← tally] at carried
  exact ⟨u, v, calls, performed, flushed, carried.between before after⟩

end Session

end Reindex
