import Reindex.Proofs.Cluster.Delivery
import Reindex.Proofs.Session.Window

/-!
# Sessions that send one batch at a time

With no concurrent batches and nothing in the way, a session on the cluster in memory carries its
operations out in the order in which they were added, whatever the limits of a batch are: where a
batch is cut makes no difference to what is written or counted.

Where operations are pushed back this order is lost. They are sent again when the others of their
batch were carried out, also those on the same documents, so that an older text of a document can
end up over a newer one.

Main statements: `Session.batching_transparent` and `Session.pushed_back_last`.
-/

namespace Reindex.Session

/-- The lifecycle of a session with other limits for its batches. -/
def withLimits (l : Lifecycle) (actions requests : Nat) (bytes : Option Nat) : Lifecycle :=
  { l with tuning := { l.tuning with bulkActions := actions, bulkRequests := requests, bulkSizeBytes := bytes } }

/-- A window in time, with the batches one at a time. -/
theorem load_inline {l : Lifecycle} {options : WriterOptions} {c : MemoryCluster}
    (hc : c.Present l.identity.index) (inline : l.tuning.bulkRequests = 0) {ops : List Operation}
    {s : Session MemoryCluster Unit}
    (hs : load MemoryCluster.cluster ops (ofLifecycle l options c) = .ok true s) :
    ∃ d : MemoryCluster, c.Alike d ∧
      let told := (l.tuning.limits.batches ops).foldl
        (deliver MemoryCluster.cluster l.identity.index options.backoff) (d, {})
      told.1.Alike s.writer.cluster ∧ s.tally = told.2 := by
  obtain ⟨t, u, fresh, alike, loaded, tally, alike'⟩ := load_eq l options hc ops
  obtain ⟨drained, same⟩ := EStateM.Result.ok.inj (hs.symm.trans loaded)
  subst same
  have delivered :=
    Traffic.loaded_inline MemoryCluster.timeless inline
      (Channel.resting_of_fresh fresh) drained.symm
  refine ⟨t.cluster, alike, ?_⟩
  rw [show t.channel.tally = {} by rw [fresh]; rfl] at delivered
  rw [← delivered]
  exact ⟨alike', tally⟩

/-- Where calls take no time and nothing is in the way, every flush is in time. -/
theorem load_quiet {l : Lifecycle} (options : WriterOptions) {c : MemoryCluster}
    (hc : c.Present l.identity.index) (quiet : c.Quiet) (instant : c.latency = 0)
    (inline : l.tuning.bulkRequests = 0) (ops : List Operation) :
    ∃ s, load MemoryCluster.cluster ops (ofLifecycle l options c) = .ok true s := by
  obtain ⟨t, s, fresh, alike, loaded, -⟩ := load_eq l options hc ops
  obtain ⟨rest, delivered⟩ :=
    Traffic.addAll_inline MemoryCluster.timeless inline (Channel.resting_of_fresh fresh) ops
  obtain ⟨log, written⟩ :=
    MemoryCluster.deliverAll_quiet (alike.quiet quiet) l.identity.index options.backoff
    t.channel.tally (l.tuning.limits.cutAll [] ops).1
  have behind : (t.addAll MemoryCluster.cluster ops).cluster = t.cluster.written l.identity.index
    log _ :=
    congrArg Prod.fst (delivered.trans written)
  have drained :=
    Traffic.close_at_once MemoryCluster.timeless inline rest options.flushTimeout fun f _
      sending _ => by
    rw [behind]
    exact MemoryCluster.run_quiet ((alike.quiet quiet).written ..)
      (alike.latency.trans instant) l.identity.index _ sending
  rw [drained] at loaded
  exact ⟨s, loaded⟩

/-- **Where batches are cut makes no difference.** Without concurrent batches, and with nothing that
gets in the way, a session leaves the documents and the ledger of its operations one after another;
the flush is never too late. -/
theorem batching_transparent (l : Lifecycle) (options : WriterOptions) {c : MemoryCluster}
    (present : c.Present l.identity.index) (quiet : c.Quiet) (instant : c.latency = 0)
    (ops : List Operation) :
    ∃ docs, c.docs? l.identity.index = some docs ∧
      let executed := Accounted.executeAll c.failingIds ops ⟨some docs, {}⟩
      ∀ actions bytes, ∃ s,
        load MemoryCluster.cluster ops (ofLifecycle (withLimits l actions 0 bytes) options c) =
          .ok true s ∧
          s.writer.cluster.docs? l.identity.index = executed.docs ∧ s.tally = executed.tally ∧
          ∀ other, other ≠ l.identity.index → s.writer.cluster.docs? other = c.docs? other := by
  obtain ⟨docs, there⟩ := MemoryCluster.docs_of_present present
  refine ⟨docs, there, fun actions bytes => ?_⟩
  let limited := withLimits l actions 0 bytes
  obtain ⟨s, loaded⟩ := load_quiet (l := limited) options present quiet instant rfl ops
  obtain ⟨d, alike, written, tally⟩ := load_inline (l := limited) present rfl loaded
  obtain ⟨log, delivered⟩ :=
    MemoryCluster.deliverAll_quiet (alike.quiet quiet) limited.identity.index options.backoff {}
    (limited.tuning.limits.batches ops)
  rw [delivered, BatchLimits.flatten_batches] at written tally
  dsimp only at written tally
  have before : d.docs? l.identity.index = some docs := by rw [alike.docs, there]
  refine ⟨s, loaded, ?_, ?_, fun other elsewhere => ?_⟩
  · rw [written.docs, Accounted.docs_executeAll, ← alike.failingIds, ← before]
    exact MemoryCluster.docs?_written d l.identity.index log ops
  · rw [tally, ← before, alike.failingIds]
    rfl
  · rw [written.docs]
    exact (MemoryCluster.docs?_written_of_ne d log ops elsewhere).trans (congrFun alike.docs other)

/-- Two ways to cut five operations, of which two fail. -/
theorem batching_transparent_books :
    let c : MemoryCluster :=
      { MemoryCluster.seed {} "books2" ∅ (.ofList [("a", "\x7b\"title\":\"Dune\"\x7d")]) with
      failingIds := ["d"] }
    let l : Lifecycle := ⟨.behind "books" "books2", {}, {}, .ensured, false⟩
    let ops : List Operation :=
      [⟨.update, "a", some "\x7b\"year\":1965\x7d"⟩, ⟨.index, "b", some "1"⟩,
      ⟨.update, "b", some "\x7b\x7d"⟩, ⟨.index, "d", some "1"⟩, ⟨.delete, "b", none⟩]
    let docs : Dict String := .ofList [("a", "\x7b\"title\":\"Dune\",\"year\":1965\x7d")]
    let tally : RunTally := ⟨{ succeeded := 2, failed := 2, deleted := 1 }, true⟩
    ∃ s u, load MemoryCluster.cluster ops (ofLifecycle (withLimits l 1 0 none) {} c) = .ok true s ∧
      load MemoryCluster.cluster ops (ofLifecycle (withLimits l 3 0 (some 40)) {} c) = .ok true u ∧
      (s.writer.cluster.docs? "books2", s.tally) = (some docs, tally) ∧
      (u.writer.cluster.docs? "books2", u.tally) = (some docs, tally) := by
  intro c l ops docs tally
  have present : c.indices.contains "books2" = true := by decide +kernel
  obtain ⟨before, there, alike⟩ := batching_transparent l {} (c := c) present ⟨rfl, rfl⟩ rfl ops
  have executed : Accounted.executeAll c.failingIds ops ⟨c.docs? "books2", {}⟩ = ⟨some docs,
    tally⟩ := by decide +kernel
  rw [← there] at alike
  dsimp only at alike
  rw [show l.identity.index = "books2" from rfl, executed] at alike
  obtain ⟨s, first, written, counted, -⟩ := alike 1 none
  obtain ⟨u, second, written', counted', -⟩ := alike 3 (some 40)
  exact ⟨s, u, first, second, Prod.ext written counted, Prod.ext written' counted'⟩

/-! ## Operations that are pushed back -/

/-- A window in time and without failures, with the batches one at a time. -/
theorem load_rotated {l : Lifecycle} {options : WriterOptions} {c : MemoryCluster}
    (present : c.Present l.identity.index) (inline : l.tuning.bulkRequests = 0)
    (reached : c.transportFailures = 0) {ops : List Operation} {s : Session MemoryCluster Unit}
    (loaded : load MemoryCluster.cluster ops (ofLifecycle l options c) = .ok true s)
    (clean : s.tally.failed = false) :
    s.writer.cluster.docs? l.identity.index = (c.docs? l.identity.index).map fun docs =>
      ((l.tuning.limits.firstBatch ops).rotate c.rejections ++
        (l.tuning.limits.batches ops).tail.flatten).foldl
        (Operation.revise c.failingIds) docs := by
  obtain ⟨d, alike, kept, tally⟩ := load_inline present inline loaded
  rw [tally] at clean
  have ordered :=
    MemoryCluster.deliverAll_rotated (alike.transportFailures.trans reached) l.identity.index
    options.backoff {} (fun batch => BatchLimits.ne_nil_of_mem_batches) clean
  rw [← kept.docs, alike.docs, alike.failingIds, alike.rejections] at ordered
  exact ordered

/-- **What is pushed back comes last in its batch,** and only in the first one, behind which nothing
is pushed back any more: a session that ends in time and without failures carried its operations out
in the order in which they came, but with the first batch rotated. So a document is the work of its
operations in their order if none of those in the first batch was pushed back, or all of them
equally often. -/
theorem pushed_back_last {l : Lifecycle} {options : WriterOptions} {c : MemoryCluster}
    (present : c.Present l.identity.index) (inline : l.tuning.bulkRequests = 0)
    (reached : c.transportFailures = 0) {ops : List Operation} {s : Session MemoryCluster Unit}
    (loaded : load MemoryCluster.cluster ops (ofLifecycle l options c) = .ok true s)
    (clean : s.tally.failed = false) :
    ∃ docs, c.docs? l.identity.index = some docs ∧
      let first := l.tuning.limits.firstBatch ops
      let rest := ops.drop first.length
      ∃ written, s.writer.cluster.docs? l.identity.index = some written ∧
        written = (first.rotate c.rejections ++ rest).foldl (Operation.revise c.failingIds) docs ∧
        ∀ id, let own := first.filter (·.id = id)
          let back := (first.take (c.rejections % first.length)).filter (·.id = id)
          written.get? id = (own.rotate back.length ++ rest.filter (·.id = id)).foldl
            (Operation.rewrite c.failingIds) (docs.get? id) ∧
          (back = [] ∨ back = own → written.get? id =
            (ops.filter (·.id = id)).foldl (Operation.rewrite c.failingIds) (docs.get? id)) := by
  obtain ⟨docs, there⟩ := MemoryCluster.docs_of_present present
  have ordered := load_rotated present inline reached loaded clean
  refine ⟨docs, there, ?_⟩
  intro first rest
  have parts := l.tuning.limits.firstBatch_append ops
  have behind : (l.tuning.limits.batches ops).tail.flatten = rest := by
    show _ = ops.drop first.length
    conv => rhs; rw [← parts]
    exact List.drop_left.symm
  rw [behind] at parts ordered
  rw [there, Option.map_some] at ordered
  refine ⟨_, ordered, rfl, fun id => ?_⟩
  have document := Operation.get?_foldl_rotated c.failingIds docs first rest c.rejections id
  rw [show first ++ rest = ops from parts] at document
  exact document

/-- What a session has to show for its operations: whether it was in time, its ledger, and an
index. -/
def shown (index : String) (ops : List Operation) (s : Session MemoryCluster Unit) :
    Option (Bool × RunTally × Option (Dict String)) :=
  match load MemoryCluster.cluster ops s with
  | .ok drained u => some (drained, u.tally, u.writer.cluster.docs? index)
  | .error _ _ => none

theorem load_of_shown {index : String} {ops : List Operation} {s : Session MemoryCluster Unit}
    {drained : Bool} {tally : RunTally} {docs : Option (Dict String)}
    (h : shown index ops s = some (drained, tally, docs)) :
    ∃ u, load MemoryCluster.cluster ops s = .ok drained u ∧ u.tally = tally ∧
      u.writer.cluster.docs? index = docs := by
  unfold shown at h
  split at h
  · rename_i u loaded
    cases h
    exact ⟨u, loaded, rfl, rfl⟩
  · cases h

/-- An operation on another document is pushed back. -/
theorem pushed_back_last_elsewhere :
    let c : MemoryCluster := { MemoryCluster.seed {} "books2" ∅ ∅ with rejections := 1 }
    let l : Lifecycle := ⟨.behind "books" "books2", { bulkRequests := 0 }, {}, .ensured, false⟩
    let ops : List Operation :=
      [⟨.index, "b", some "1"⟩, ⟨.index, "a", some "2"⟩, ⟨.delete, "a", none⟩]
    ∃ s written, load MemoryCluster.cluster ops (ofLifecycle l {} c) = .ok true s ∧
      s.tally.failed = false ∧
      s.writer.cluster.docs? "books2" = some written ∧ written.get? "a" = none ∧
        written.get? "b" = some "1" := by
  intro c l ops
  have told : shown "books2" ops (ofLifecycle l {} c) =
      some (true, ⟨{ succeeded := 2, deleted := 1 }, false⟩, some (.ofList [("b", "1")])) := by
        decide +kernel
  obtain ⟨s, loaded, tally, -⟩ := load_of_shown told
  have clean : s.tally.failed = false := by rw [tally]
  have present : c.indices.contains "books2" = true := by decide +kernel
  obtain ⟨docs, there, written, stored, -, each⟩ :=
    pushed_back_last (l := l) present rfl rfl loaded clean
  have empty : docs = ∅ := Option.some.inj (there.symm.trans (by decide +kernel))
  subst empty
  refine ⟨s, written, loaded, clean, stored, ?_, ?_⟩
  · exact ((each "a").2 (.inl (by decide +kernel))).trans (by decide +kernel)
  · exact ((each "b").2 (.inr (by decide +kernel))).trans (by decide +kernel)

/-- **An older text over a newer one.** The first of two texts of a document is pushed back, and
written after the second; the session ends in time and without failures. -/
theorem older_text_last :
    let c : MemoryCluster := { MemoryCluster.seed {} "books2" ∅ ∅ with rejections := 1 }
    let l : Lifecycle := ⟨.behind "books" "books2", { bulkRequests := 0 }, {}, .ensured, false⟩
    let ops : List Operation :=
      [⟨.index, "A", some "\x7b\"title\":\"Dune\"\x7d"⟩,
        ⟨.index, "A", some "\x7b\"title\":\"Emma\"\x7d"⟩]
    ∃ s written, load MemoryCluster.cluster ops (ofLifecycle l {} c) = .ok true s ∧
      s.tally = ⟨{ succeeded := 2 }, false⟩ ∧ s.writer.cluster.docs? "books2" = some written ∧
      written.get? "A" = some "\x7b\"title\":\"Dune\"\x7d" ∧
      (ops.filter (·.id = "A")).foldl (Operation.rewrite c.failingIds) none =
        some "\x7b\"title\":\"Emma\"\x7d" := by
  intro c l ops
  have told : shown "books2" ops (ofLifecycle l {} c) =
      some (true, ⟨{ succeeded := 2 }, false⟩,
        some (.ofList [("A", "\x7b\"title\":\"Dune\"\x7d")])) := by decide +kernel
  obtain ⟨s, loaded, tally, stored⟩ := load_of_shown told
  exact ⟨s, _, loaded, tally, stored, by decide +kernel, by decide +kernel⟩

end Reindex.Session
