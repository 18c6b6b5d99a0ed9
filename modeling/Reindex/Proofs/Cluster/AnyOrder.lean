import Reindex.Proofs.Cluster.Aligned
import Reindex.Proofs.Cluster.Delivery
import Reindex.Proofs.Writer.Course

/-!
# Batches in any order

Batches under way are answered by the cluster in memory in whatever order they come to it, and their
ends are booked in whatever order they are noticed. The documents are the work of the operations in
the order of the answers, and so is the ledger. Where no two operations are about the same document,
any other order does the same work.

The invariant `Served` follows the answers, over courses of all kinds. It needs that nothing is
pushed back: then a batch ends with its first answer, and what is under way was never answered.

Main statement: `MemoryCluster.executed_of_course`.
-/

namespace Reindex

/-! ## Other orders -/

/-- Operations on different documents come to the same in any order. -/
theorem Accounted.executeAll_perm {xs ys : List Operation} (h : xs.Perm ys)
    (distinct : (xs.map (·.id)).Nodup) (failing : List String) (a : Accounted) :
    executeAll failing xs a = executeAll failing ys a := by
  refine h.foldl_eq' (fun x hx y hy a => ?_) a
  by_cases same : x.id = y.id
  · rw [List.inj_on_of_nodup_map distinct hx hy same]
  · exact execute_comm failing a same

/-! ## What holds of every course -/

/-- A channel that was opened with an empty ledger, and is empty again, booked every end. -/
theorem Traffic.settled {σ τ : Type} {cluster : Cluster σ τ} (aligned : cluster.Aligned)
    {index : String} {limits : BatchLimits} {backoff : BackoffPolicy} {t u : Traffic σ τ}
    {h : History} (ht : t.channel = .ofTally index limits backoff {})
    (course : Course (Move cluster) t h u) (empty : u.channel.Empty) :
    h.taken.Perm (h.ended ++ h.givenUp) ∧
    u.channel.tally = (h.landings.map Prod.snd).foldl RunTally.settle {} := by
  let w : Writer σ τ :=
    { window := .closed {}, now := t.now, cluster := t.cluster, allowance := t.allowance }
  let opened : Writer σ τ := { w with window := .opened (.ofTally index limits backoff {}) }
  have same : opened.traffic (.ofTally index limits backoff {}) = t := by rw [← ht]; rfl
  have window : Course (Writer.Move cluster) w h
    { Writer.ofTraffic u with window := .closed u.channel.tally } :=
    .head (.openWindow rfl index limits backoff)
      ((Writer.course_traffic (w := opened) rfl (same ▸ course)).silent (.closeWindow rfl empty))
  obtain ⟨settles, booked, -⟩ := Writer.settled aligned rfl window rfl
  refine ⟨settles.conserved.trans (h.ended_perm.symm.append_right _), ?_⟩
  rw [booked]
  exact Writer.tally_of_course window

/-- A batch as it was let go: none of it was answered. -/
def Flight.Unanswered {τ : Type} (f : Flight τ) : Prop :=
  ∃ backoff, f.submission = .ofOperations f.operations backoff

/-- What is sent of it is all of it. -/
theorem Flight.Unanswered.attempt {τ : Type} {f : Flight τ} (h : f.Unanswered) :
    f.submission.attempt = f.operations := by
  obtain ⟨backoff, fresh⟩ := h
  rw [fresh]
  exact Submission.attempt_ofOperations _ backoff

/-- What is let go was never answered. -/
theorem Channel.unanswered_launch {τ : Type} {channel : Channel τ} (now : Nat)
    (still : ∀ f ∈ channel.flights, f.Unanswered) :
    ∀ f ∈ (channel.launch now).flights, f.Unanswered := by
  intro f hf
  unfold launch at hf
  cases hw : channel.waiting with
  | none =>
    rw [hw] at hf
    exact still f hf
  | some ops =>
    rw [hw] at hf
    rcases List.mem_append.1 hf with hf | hf
    · exact still f hf
    · rw [List.mem_singleton.1 hf]
      exact ⟨channel.backoff,
        congrArg (Submission.ofOperations · _) (Submission.ofOperations_operations ..).symm⟩

namespace MemoryCluster

/-- The cluster carried out what has ended, in the order of the answers, and accounted for it; each
batch was answered once, and what is under way was never answered. -/
structure Served (c : MemoryCluster) (index : String) (h : History)
    (t : Traffic MemoryCluster Unit) : Prop where
  into : t.channel.index = index
  cluster : ∃ log, t.cluster = c.written index log h.ended
  tally : (h.landings.map Prod.snd).foldl RunTally.settle {} =
    (Accounted.executeAll c.failingIds h.ended ⟨c.docs? index, {}⟩).tally
  answers : h.answers.map Prod.fst = h.landings.map Prod.fst
  unanswered : ∀ f ∈ t.channel.flights, f.Unanswered

variable {c : MemoryCluster} {index : String} {h g : History} {t u : Traffic MemoryCluster Unit}

theorem served_start (c : MemoryCluster) {index : String} {limits : BatchLimits}
    {backoff : BackoffPolicy} (hc : t.cluster = c)
    (ht : t.channel = .ofTally index limits backoff {}) : Served c index [] t where
  into := by rw [ht]; rfl
  cluster := ⟨c.bulkBatches, by rw [hc]; exact (written_nil c index).symm⟩
  tally := rfl
  answers := rfl
  unanswered := by rw [ht]; exact fun f hf => (by cases hf)

/-- **An answer carries out the batch** and is the end of it. -/
theorem served_answer (quiet : c.Quiet) (before : Served c index h t) {f : Flight Unit}
    (hf : f ∈ t.channel.flights) (now : Nat) :
    let answer := bulk index f.submission.attempt t.cluster
    ∃ landing log, f.hear now answer.1 = .landed landing ∧
      answer.2 = c.written index log (h.ended ++ f.operations) ∧
      RunTally.settle ((h.landings.map Prod.snd).foldl RunTally.settle {}) landing =
        (Accounted.executeAll c.failingIds (h.ended ++ f.operations) ⟨c.docs? index,
          {}⟩).tally := by
  intro answer
  obtain ⟨log, behind⟩ := before.cluster
  obtain ⟨backoff, fresh⟩ := before.unanswered f hf
  let d := c.written index log h.ended
  have still : d.Quiet := quiet.written index log h.ended
  have attempt := (before.unanswered f hf).attempt
  have heard := hear_quiet still index now f
  have answered := (bulk_quiet still index f.submission).1
  have results : Slot.results (Slot.fill f.submission.slots (applyAll index f.operations d).1) =
      (applyAll index f.operations d).1 := by
    rw [fresh]
    exact Submission.results_ofOperations backoff (applyAll_length index f.operations d)
  rw [attempt] at heard answered
  rw [results] at heard
  have same : answer = bulk index f.operations d := by
    show bulk index f.submission.attempt t.cluster = _
    rw [attempt, behind]
  rw [same]
  refine ⟨_, d.bulkBatches ++ [f.operations.length], heard, ?_, ?_⟩
  · rw [answered]
    exact written_written c index log _ h.ended f.operations
  · rw [before.tally, ← tally_written c index log h.ended f.operations]
    exact applyAll_accounts still.rejections index f.operations _

/-- A move by which nothing is answered. -/
theorem Served.silent (before : Served c index h t) (ended : g.landings = [])
    (heard : g.answers = []) (into : u.channel.index = t.channel.index)
    (behind : u.cluster = t.cluster) (unanswered : ∀ f ∈ u.channel.flights, f.Unanswered) :
    Served c index (h ++ g) u := by
  have same : (h ++ g).landings = h.landings := by
    rw [History.landings_append, ended, List.append_nil]
  obtain ⟨log, written⟩ := before.cluster
  refine ⟨into.trans before.into, ⟨log, ?_⟩, ?_, ?_, unanswered⟩
  · unfold History.ended
    rw [same, behind, written]
    rfl
  · unfold History.ended
    rw [same, before.tally]
    rfl
  · rw [same, History.answers_append, heard, List.append_nil, before.answers]

/-- **One move.** -/
theorem served_move (quiet : c.Quiet) (before : Served c index h t)
    (hm : Traffic.Move cluster t g u) :
    Served c index (h ++ g) u := by
  have still := before.unanswered
  cases hm with
  | wait now allowance => exact before.silent rfl rfl rfl rfl still
  | take op => exact before.silent rfl rfl rfl rfl still
  | cut hw hb => exact before.silent rfl rfl rfl rfl still
  | book hl => exact before.silent rfl rfl rfl rfl still
  | dropWaiting hw => exact before.silent rfl rfl rfl rfl still
  | reorder hp => exact before.silent rfl rfl rfl rfl fun f hf => still f (hp.mem_iff.1 hf)
  | dropFlight hf => exact before.silent rfl rfl rfl rfl fun g hg => still g (hf ▸ .tail _ hg)
  | launch now hr =>
    refine before.silent rfl rfl ?_ rfl (Channel.unanswered_launch now still)
    show (t.channel.launch now).index = t.channel.index
    unfold Channel.launch
    cases t.channel.waiting <;> rfl
  | @send f rest wait ticket s now hf hp hb =>
    refine before.silent rfl rfl rfl (congrArg Prod.snd hb).symm fun g hg => ?_
    rcases List.mem_cons.1 hg with rfl | hg
    · exact still f (hf ▸ .head _)
    · exact still g (hf ▸ .tail _ hg)
  | @resend f f' rest ticket answer s now hf hp ha hg =>
    -- an answer is the end of a batch
    obtain ⟨landing, log, heard, -⟩ :=
      served_answer quiet before (f := f) (by rw [hf]; exact .head _) now
    rw [← before.into] at heard
    rw [show (bulk t.channel.index f.submission.attempt t.cluster).1 = answer from congrArg Prod.fst
      ha, hg] at heard
    cases heard
  | @land f rest ticket answer s landing now hf hp ha hl =>
    obtain ⟨landing', log, heard, behind, booked⟩ :=
      served_answer quiet before (f := f) (by rw [hf]; exact .head _) now
    rw [← before.into] at heard behind
    rw [show bulk t.channel.index f.submission.attempt t.cluster = (answer, s) from ha]
      at heard behind
    rw [show f.hear now answer = _ from hl] at heard
    cases heard
    have ended :
      History.ended (h ++ [.answered f.submission.attempt answer, .landed f.operations landing]) =
        h.ended ++ f.operations := by
      rw [History.ended_append]
      exact congrArg (h.ended ++ ·) (List.append_nil f.operations)
    have attempt : f.submission.attempt = f.operations := (still f (hf ▸ .head _)).attempt
    refine ⟨before.into, ⟨log, ?_⟩, ?_, ?_, fun g hg => still g (hf ▸ .tail _ hg)⟩
    · rw [ended, ← before.into]
      exact behind
    · rw [ended, ← booked, History.landings_append, List.map_append, List.foldl_append]
      rfl
    · rw [History.answers_append, History.landings_append, List.map_append, List.map_append,
        before.answers]
      exact congrArg (fun ops => h.landings.map Prod.fst ++ [ops]) attempt

/-- **What a course comes to.** The documents and the ledger of a channel that was opened on a
cluster where nothing is in the way, and that is empty again with nothing given up, are the work of
the operations in any order, provided that no two are about the same document. The ends of the
batches are booked to the same ledger in any order. -/
theorem executed_of_course (quiet : c.Quiet) {limits : BatchLimits} {backoff : BackoffPolicy}
    {ops : List Operation} (distinct : (ops.map (·.id)).Nodup) (hc : t.cluster = c)
    (ht : t.channel = .ofTally index limits backoff {})
    (course : Course (Traffic.Move cluster) t h u) (taken : h.taken = ops) (kept : h.dropped = [])
    (empty : u.channel.Empty) :
    let executed := Accounted.executeAll c.failingIds ops ⟨c.docs? index, {}⟩
    u.cluster.docs? index = executed.docs ∧ u.channel.tally = executed.tally ∧
      (∀ ends : List Landing, ends.Perm (h.landings.map Prod.snd) →
        ends.foldl RunTally.settle {} = executed.tally) ∧
      ∀ other, other ≠ index → u.cluster.docs? other = c.docs? other := by
  intro executed
  have served : Served c index h u :=
    course.invariant (served_start c hc ht) fun before hm => served_move quiet before hm
  obtain ⟨conserved, ledger⟩ := Traffic.settled aligned ht course empty
  have order : h.ended.Perm ops := by
    have none : h.givenUp = [] := by simp [History.givenUp, kept]
    rw [taken, none, List.append_nil] at conserved
    exact conserved.symm
  have same : Accounted.executeAll c.failingIds h.ended ⟨c.docs? index, {}⟩ = executed :=
    Accounted.executeAll_perm order ((order.map (·.id)).nodup_iff.2 distinct) c.failingIds _
  obtain ⟨log, written⟩ := served.cluster
  have tally := served.tally
  rw [same] at tally
  refine ⟨?_, ?_, fun ends perm => ?_, fun other elsewhere => ?_⟩
  · rw [written, docs?_written, ← same, Accounted.docs_executeAll]
  · rw [ledger, tally]
  · rw [RunTally.foldl_settle_perm perm, tally]
  · rw [written, docs?_written_of_ne c log h.ended elsewhere]

theorem quiet_bulk (quiet : c.Quiet) (index : String) (s : Submission) :
    (bulk index s.attempt c).2.Quiet := by
  rw [(bulk_quiet quiet index s).1]
  exact quiet.written index _ s.attempt

/-- A batch may be overtaken: of two under way the second can be answered first. -/
theorem course_overtaken (quiet : c.Quiet) (index : String) (backoff : BackoffPolicy)
    (a b : Operation) :
    ∃ (t u : Traffic MemoryCluster Unit) (h : History),
      t.cluster = c ∧ t.channel = .ofTally index ⟨1, 2, none⟩ backoff {} ∧
      Course (Traffic.Move cluster) t h u ∧
        h.taken = [a, b] ∧ h.dropped = [] ∧ u.channel.Empty ∧
        h.answers.map Prod.fst = [[b], [a]] := by
  let t : Traffic MemoryCluster Unit :=
    { channel := .ofTally index ⟨1, 2, none⟩ backoff {}, now := 0, cluster := c }
  let first : Submission := .ofOperations [a] backoff
  let second : Submission := .ofOperations [b] backoff
  let due : Nat := 0 + min c.latency longestWait
  have one : Course (Traffic.Move cluster) t [.taken a] _ := .single (.take t a)
  have launched := (one.silent (.cut rfl rfl)).silent (.launch 0 rfl)
  have launched' := ((launched.tail (.take _ b)).silent (.cut rfl rfl)).silent (.launch 0 rfl)
  -- both are sent, and the second comes to the front
  have sent := (launched'.silent (.send 0 rfl rfl rfl)).silent (.reorder (List.Perm.swap _ _ []))
  have sent' := sent.silent (.send 0 rfl rfl rfl)
  have heard := hear_quiet (f := ⟨2, second, .awaiting (), due⟩) quiet index 0
  have heard' :=
    hear_quiet (f := ⟨1, first, .awaiting (), due⟩) (quiet_bulk quiet index second) index 0
  have landed := (sent'.tail (.land 0 rfl rfl rfl heard)).tail (.land 0 rfl rfl rfl heard')
  exact ⟨t, _, _, rfl, rfl, (landed.tail (.book rfl)).tail (.book rfl), rfl, rfl,
    ⟨rfl, rfl, rfl, rfl⟩, rfl⟩

end MemoryCluster

end Reindex
