import Reindex.Proofs.Cluster.AnyOrder
import Reindex.Proofs.Session.Inline

/-!
# Sessions with batches under way

A session that has several batches under way does not say in which order the cluster answers them.
Where no two operations are about the same document, and nothing is in the way, that order makes no
difference: documents and ledger are those of a session that sends one batch at a time.

Main statement: `Session.any_order_of_distinct`.
-/

namespace Reindex

variable {σ τ : Type}

/-- The course of a channel that takes operations one after another. -/
theorem Traffic.course_addAll (cluster : Cluster σ τ) (ops : List Operation) {t : Traffic σ τ}
    (ht : t.channel.AtRest) :
    ∃ h : History, Course (Move cluster) t h (t.addAll cluster ops) ∧ h.taken = ops ∧
      h.dropped = [] ∧
      (t.addAll cluster ops).channel.AtRest := by
  induction ops generalizing t with
  | nil => exact ⟨[], .refl t, rfl, rfl, ht⟩
  | cons op ops ih =>
    obtain ⟨h, first, taken, kept, rest⟩ := course_add cluster op ht
    obtain ⟨g, others, taken', kept', rest'⟩ := ih rest
    refine ⟨h ++ g, first.trans others, ?_, ?_, rest'⟩
    · rw [History.taken_append, taken, taken']
      rfl
    · rw [History.dropped_append, kept, kept']
      rfl

namespace Session

/-- A window in time, with batches of all kinds. -/
theorem load_of_distinct {l : Lifecycle} {options : WriterOptions} {c : MemoryCluster}
    (present : c.Present l.identity.index) (quiet : c.Quiet) {ops : List Operation}
    (distinct : (ops.map (·.id)).Nodup) {s : Session MemoryCluster Unit}
    (loaded : load MemoryCluster.cluster ops (ofLifecycle l options c) = .ok true s) :
    let executed := Accounted.executeAll c.failingIds ops ⟨c.docs? l.identity.index, {}⟩
    s.writer.cluster.docs? l.identity.index = executed.docs ∧ s.tally = executed.tally := by
  obtain ⟨t, u, fresh, alike, closed, tally, alike'⟩ := load_eq l options present ops
  obtain ⟨drained, same⟩ := EStateM.Result.ok.inj (loaded.symm.trans closed)
  subst same
  have start : t.channel.AtRest := by rw [fresh]; exact ⟨rfl, fun _ => rfl⟩
  obtain ⟨h, adding, taken, kept, rest⟩ := Traffic.course_addAll MemoryCluster.cluster ops start
  obtain ⟨g, closing, nothing, empty, inTime⟩ :=
    Traffic.course_close MemoryCluster.cluster options.flushTimeout rest
  obtain ⟨docs, ledger, -⟩ :=
    MemoryCluster.executed_of_course (alike.quiet quiet) distinct rfl fresh (adding.trans closing)
    (by rw [History.taken_append, taken, nothing, List.append_nil])
    (by rw [History.dropped_append, kept, inTime.1 drained.symm]; rfl) empty
  rw [alike.failingIds, alike.docs] at docs ledger
  exact ⟨(congrFun alike'.docs _).trans docs, tally.trans ledger⟩

/-- **The order of the answers makes no difference** where no two operations are about the same
document and nothing is in the way. Whatever the course of a channel from its opening to its end, it
leaves the documents and the ledger of the operations one after another, also if the ends are booked
in another order; so every session does that is in time, the one that sends one batch at a time
among them. -/
theorem any_order_of_distinct (l : Lifecycle) (options : WriterOptions) {c : MemoryCluster}
    (quiet : c.Quiet) {ops : List Operation} (distinct : (ops.map (·.id)).Nodup) :
    let index := l.identity.index
    let executed := Accounted.executeAll c.failingIds ops ⟨c.docs? index, {}⟩
    (∀ (limits : BatchLimits) (backoff : BackoffPolicy) (t u : Traffic MemoryCluster Unit)
      (h : History),
        t.cluster = c → t.channel = .ofTally index limits backoff {} →
        Course (Traffic.Move MemoryCluster.cluster) t h u → h.taken = ops → h.dropped = [] →
          u.channel.Empty →
        u.cluster.docs? index = executed.docs ∧ u.channel.tally = executed.tally ∧
          ∀ ends : List Landing, ends.Perm (h.landings.map Prod.snd) →
            ends.foldl RunTally.settle {} = executed.tally) ∧
      (c.Present index → ∀ actions requests bytes (s : Session MemoryCluster Unit),
        load MemoryCluster.cluster ops
          (ofLifecycle (withLimits l actions requests bytes) options c) = .ok true s →
        s.writer.cluster.docs? index = executed.docs ∧ s.tally = executed.tally) := by
  intro index executed
  refine ⟨fun limits backoff t u h hc ht course taken kept empty => ?_,
    fun present actions requests bytes s loaded => ?_⟩
  · obtain ⟨docs, ledger, booked, -⟩ :=
      MemoryCluster.executed_of_course quiet distinct hc ht course taken kept empty
    exact ⟨docs, ledger, booked⟩
  · exact load_of_distinct (l := withLimits l actions requests bytes) present quiet distinct loaded

/-- Two operations on two documents, of which one fails: the second overtakes the first, or is under
way beside it, or waits for its end. -/
theorem any_order_of_distinct_overtaken :
    let c : MemoryCluster :=
      { MemoryCluster.seed {} "books2" ∅ (.ofList [("a", "\x7b\"title\":\"Dune\"\x7d")]) with
      failingIds := ["b"], latency := 10 }
    let l : Lifecycle := ⟨.behind "books" "books2", {}, {}, .ensured, false⟩
    let a : Operation := ⟨.update, "a", some "\x7b\"year\":1965\x7d"⟩
    let b : Operation := ⟨.index, "b", some "1"⟩
    let left := (some (Dict.ofList [("a", "\x7b\"title\":\"Dune\",\"year\":1965\x7d")]),
      (⟨{ succeeded := 1, failed := 1 }, true⟩ : RunTally))
    (∃ (t u : Traffic MemoryCluster Unit) (h : History),
      Course (Traffic.Move MemoryCluster.cluster) t h u ∧
      h.taken = [a, b] ∧ h.answers.map Prod.fst = [[b], [a]] ∧
      (u.cluster.docs? "books2", u.channel.tally) = left) ∧
    ∃ s v, load MemoryCluster.cluster [a, b] (ofLifecycle (withLimits l 1 2 none) {} c) =
      .ok true s ∧
      load MemoryCluster.cluster [a, b] (ofLifecycle (withLimits l 1 0 none) {} c) = .ok true v ∧
      (s.writer.cluster.docs? "books2", s.tally) = left ∧
        (v.writer.cluster.docs? "books2", v.tally) = left := by
  intro c l a b left
  have quiet : c.Quiet := ⟨rfl, rfl⟩
  have present : c.indices.contains "books2" = true := by decide +kernel
  have executed : Accounted.executeAll c.failingIds [a, b] ⟨c.docs? l.identity.index, {}⟩ = ⟨left.1,
    left.2⟩ := by
    decide +kernel
  have distinct : ([a, b].map (·.id)).Nodup := by decide
  obtain ⟨courses, sessions⟩ := any_order_of_distinct l {} quiet distinct
  rw [executed] at courses sessions
  constructor
  · obtain ⟨t, u, h, hc, ht, course, taken, kept, empty, order⟩ :=
      MemoryCluster.course_overtaken quiet "books2" {} a b
    obtain ⟨docs, ledger, -⟩ := courses _ {} t u h hc ht course taken kept empty
    exact ⟨t, u, h, course, taken, order, Prod.ext docs ledger⟩
  · have beside : shown "books2" [a, b] (ofLifecycle (withLimits l 1 2 none) {} c) =
      some (true, left.2, left.1) := by
      decide +kernel
    have alone : shown "books2" [a, b] (ofLifecycle (withLimits l 1 0 none) {} c) =
      some (true, left.2, left.1) := by
      decide +kernel
    obtain ⟨s, loaded, -⟩ := load_of_shown beside
    obtain ⟨v, loaded', -⟩ := load_of_shown alone
    obtain ⟨docs, ledger⟩ := sessions present 1 2 none s loaded
    obtain ⟨docs', ledger'⟩ := sessions present 1 0 none v loaded'
    exact ⟨s, v, loaded, loaded', Prod.ext docs ledger, Prod.ext docs' ledger'⟩

end Session

end Reindex
