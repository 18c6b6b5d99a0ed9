import Mathlib.Data.List.Rotate
import Reindex.Proofs.Bulk.Acknowledged
import Reindex.Proofs.Bulk.Inline
import Reindex.Proofs.Bulk.Retry
import Reindex.Proofs.Cluster.Documents

/-!
# What a batch does to the cluster in memory

The cluster in memory answers at once, and pushes back as many of the next operations as it was told
to. So a call pushes back a front of its batch, and the front is sent again behind the rest: a batch
that comes through is carried out in a rotated order. Where nothing is pushed back it is carried out
as it stands.

Main statements: `MemoryCluster.deliverAll_quiet`, for batches of which nothing is pushed back, and
`MemoryCluster.deliverAll_rotated`, for batches that end without failures. It rests on
`MemoryCluster.land_rotated`.
-/

namespace Reindex

/-! ## Answers that push back -/

namespace Slot

/-- The operations that results push back. -/
def pushedBack : List Operation → List ItemResult → List Operation
  | op :: ops, r :: items =>
    if r.isRejected then op :: pushedBack ops items else pushedBack ops items
  | _, _ => []

theorem pushedBack_append {xs ys : List Operation} {is js : List ItemResult}
    (h : is.length = xs.length) :
    pushedBack (xs ++ ys) (is ++ js) = pushedBack xs is ++ pushedBack ys js := by
  induction xs generalizing is with
  | nil =>
    rw [List.length_eq_zero_iff.1 h]
    rfl
  | cons x xs ih =>
    cases is with
    | nil => cases h
    | cons r is =>
      have rest := ih (Nat.succ.inj h)
      by_cases hr : r.isRejected = true
      · simp [pushedBack, hr, rest]
      · simp [pushedBack, hr, rest]

theorem pushedBack_of_settled {ops : List Operation} {items : List ItemResult}
    (h : ∀ r ∈ items, r.isRejected = false) :
    pushedBack ops items = [] := by
  induction ops generalizing items with
  | nil => rfl
  | cons op ops ih =>
    cases items with
    | nil => rfl
    | cons r items => simp [pushedBack, h r (.head _), ih fun q hq => h q (.tail _ hq)]

/-- What results push back is what is sent next. -/
theorem openOperations_fill {slots : List Slot} {items : List ItemResult}
    (h : items.length = (openOperations slots).length) :
    openOperations (fill slots items) = pushedBack (openOperations slots) items := by
  induction slots generalizing items with
  | nil => rfl
  | cons s slots ih =>
    rw [openOperations_cons] at h ⊢
    unfold fill
    by_cases hs : s.isOpen = true
    · rw [if_pos hs] at h ⊢
      rw [if_pos hs]
      cases items with
      | nil => cases h
      | cons r items =>
        dsimp only
        rw [openOperations_cons, ih (Nat.succ.inj h)]
        rfl
    · rw [if_neg hs] at h ⊢
      rw [if_neg hs, openOperations_cons, if_neg hs, ih h]

theorem openOperations_eq_nil {slots : List Slot} :
    openOperations slots = [] ↔ slots.all (!·.isOpen) = true := by
  simp [openOperations, List.filter_eq_nil_iff]

/-- Results for slots that are all open are the results of the slots. -/
theorem results_fill {slots : List Slot} {items : List ItemResult}
    (open? : ∀ s ∈ slots, s.isOpen = true) (h : items.length = slots.length) :
    results (fill slots items) = items := by
  induction slots generalizing items with
  | nil => exact (List.length_eq_zero_iff.1 h).symm
  | cons s slots ih =>
    cases items with
    | nil => cases h
    | cons r items =>
      have rest := ih (fun u hu => open? u (.tail _ hu)) (Nat.succ.inj h)
      unfold results at rest ⊢
      simp [fill, open? s (.head _), rest]

end Slot

namespace Submission

variable {s : Submission} {items : List ItemResult}

/-- Results that push nothing back are the end of a batch. -/
theorem receive_of_settled (length : items.length = s.attempt.length)
    (settled : Slot.pushedBack s.attempt items = []) :
    s.receive? (.items items) =
      some (.finished (.completed (Slot.results (Slot.fill s.slots items)))) := by
  have closed : (Slot.fill s.slots items).all (!·.isOpen) = true := by
    rw [← Slot.openOperations_eq_nil, Slot.openOperations_fill length]
    exact settled
  simp [receive?, receiveItems, length, closed]

/-- What is pushed back is sent again, or the batch ends with a failure. -/
theorem receive_of_pushedBack (length : items.length = s.attempt.length)
    (pushed : Slot.pushedBack s.attempt items ≠ []) :
    (∃ result, s.receive? (.items items) = some (.finished result) ∧
      (Landing.reported result).fails = true) ∨
      ∃ wait next, s.receive? (.items items) = some (.resend wait next) ∧
        next.attempt = Slot.pushedBack s.attempt items := by
  have left : Slot.openOperations (Slot.fill s.slots items) ≠ [] := by
    rw [Slot.openOperations_fill length]
    exact pushed
  have notClosed : ¬ (Slot.fill s.slots items).all (!·.isOpen) = true := fun closed =>
    left (Slot.openOperations_eq_nil.2 closed)
  simp only [receive?, if_pos length, receiveItems, if_neg notClosed]
  cases s.delays.next? with
  | some d => exact .inr ⟨_, _, rfl, Slot.openOperations_fill length⟩
  | none =>
    refine .inl ⟨_, rfl, ?_⟩
    -- a slot that is still open was pushed back, and is given up
    obtain ⟨op, hop⟩ := List.exists_mem_of_ne_nil _ left
    obtain ⟨slot, hslot, -⟩ := List.mem_map.1 hop
    obtain ⟨mem, isOpen⟩ := List.mem_filter.1 hslot
    obtain ⟨r, hr⟩ := Option.isSome_iff_exists.1 (Slot.fill_answered length slot mem)
    have rejected : r.isRejected = true := by simpa [Slot.isOpen, hr] using isOpen
    have error : r.giveUp.error.isSome = true :=
      ItemResult.error_giveUp (by rwa [ItemResult.isRejected_giveUp])
    have given : r.giveUp ∈ (Slot.results (Slot.fill s.slots items)).map ItemResult.giveUp :=
      List.mem_map_of_mem (List.mem_filterMap.2 ⟨slot, mem, hr⟩)
    unfold Landing.fails
    rw [Bool.or_eq_true]
    exact .inr (List.any_eq_true.2 ⟨_, given, error⟩)

end Submission

/-! ## Bulk calls -/

namespace MemoryCluster

/-- The answer to an operation that is pushed back. -/
def refusal (op : Operation) : ItemResult :=
  .refused op ItemResult.tooManyRequests "es_rejected_execution_exception: queue full"

theorem apply_of_pushing {c : MemoryCluster} (hr : c.rejections ≠ 0) (index : String)
    (op : Operation) :
    c.apply index op = (refusal op, { c with rejections := c.rejections - 1 }) := by
  unfold apply
  rw [if_pos (by omega)]
  rfl

/-- Only what is pushed back is answered as such. -/
theorem settled_apply {c : MemoryCluster} (hr : c.rejections = 0) (index : String)
    (op : Operation) :
    (c.apply index op).1.isRejected = false := by
  unfold apply
  rw [if_neg (by omega)]
  cases c.indices.get? index with
  | none => rfl
  | some ix =>
    dsimp only
    split
    · rfl
    · unfold MemoryIndex.apply
      split
      · dsimp only
        split <;> rfl
      · split
        · rfl
        · split <;> rfl
      · dsimp only
        split <;> rfl
      · rfl

theorem settled_applyAll {c : MemoryCluster} (hr : c.rejections = 0) (index : String)
    (ops : List Operation) :
    ∀ r ∈ (applyAll index ops c).1, r.isRejected = false := by
  induction ops generalizing c with
  | nil => exact fun r h => by cases h
  | cons op ops ih =>
    intro r h
    rcases List.mem_cons.1 h with rfl | h
    · exact settled_apply hr index op
    · exact ih (rejections_apply hr index op) r h

/-- **A call pushes back a front of its operations,** and carries out the others. -/
theorem applyAll_pushesBack (index : String) (ops : List Operation) (c : MemoryCluster) :
    applyAll index ops c =
      let rest := applyAll index (ops.drop c.rejections)
        { c with rejections := c.rejections - ops.length }
      ((ops.take c.rejections).map refusal ++ rest.1, rest.2) := by
  induction ops generalizing c with
  | nil => simp [applyAll]
  | cons op ops ih =>
    cases hr : c.rejections with
    | zero =>
      have same : ({ c with rejections := 0 - (op :: ops).length } : MemoryCluster) = c := by
        rw [Nat.zero_sub, ← hr]
      rw [same]
      rfl
    | succ n =>
      have first : c.apply index op = (refusal op, { c with rejections := n }) := by
        rw [apply_of_pushing (by omega), hr, Nat.add_sub_cancel]
      have others := ih { c with rejections := n }
      rw [show applyAll index (op :: ops) c =
        ((c.apply index op).1 :: (applyAll index ops (c.apply index op).2).1,
        (applyAll index ops (c.apply index op).2).2) from rfl, first]
      dsimp only at others ⊢
      rw [others, List.take_succ_cons, List.drop_succ_cons, List.length_cons, Nat.add_sub_add_right]
      rfl

theorem pushedBack_applyAll (index : String) (ops : List Operation) (c : MemoryCluster) :
    Slot.pushedBack ops (applyAll index ops c).1 = ops.take c.rejections := by
  have refused (xs : List Operation) : Slot.pushedBack xs (xs.map refusal) = xs := by
    induction xs with
    | nil => rfl
    | cons x xs ih => exact congrArg (x :: ·) ih
  have rest : Slot.pushedBack (ops.drop c.rejections)
      (applyAll index (ops.drop c.rejections)
        { c with rejections := c.rejections - ops.length }).1 = [] := by
    by_cases few : c.rejections ≤ ops.length
    · exact Slot.pushedBack_of_settled
        (settled_applyAll (by show c.rejections - ops.length = 0; omega) index _)
    · rw [List.drop_eq_nil_of_le (by omega)]
      rfl
  have parts := List.take_append_drop c.rejections ops
  rw [applyAll_pushesBack]
  conv => lhs; arg 1; rw [← parts]
  rw [Slot.pushedBack_append (List.length_map ..), refused, rest, List.append_nil]

/-- The log of bulk calls is written and never read. -/
theorem apply_log (c : MemoryCluster) (log : List Nat) (index : String) (op : Operation) :
    ({ c with bulkBatches := log } : MemoryCluster).apply index op =
      ((c.apply index op).1, { (c.apply index op).2 with bulkBatches := log }) := by
  unfold apply
  dsimp only
  split
  · rfl
  · split
    · rfl
    · unfold isPoisoned
      dsimp only
      split <;> rfl

theorem applyAll_log (c : MemoryCluster) (log : List Nat) (index : String) (ops : List Operation) :
    applyAll index ops { c with bulkBatches := log } =
      ((applyAll index ops c).1, { (applyAll index ops c).2 with bulkBatches := log }) := by
  induction ops generalizing c with
  | nil => rfl
  | cons op ops ih =>
    have rest := ih (c.apply index op).2
    unfold applyAll
    rw [apply_log]
    dsimp only
    rw [rest]

/-- The cluster after a bulk call that goes through. -/
def answered (c : MemoryCluster) (index : String) (ops : List Operation) : MemoryCluster :=
  { (applyAll index ops c).2 with bulkBatches := c.bulkBatches ++ [ops.length] }

theorem bulk_eq {c : MemoryCluster} (ht : c.transportFailures = 0) (index : String)
    (ops : List Operation) :
    bulk index ops c = (.items (applyAll index ops c).1, c.answered index ops) := by
  unfold bulk
  dsimp only
  rw [if_neg (by omega), applyAll_log]
  rfl

theorem timeless : cluster.Timeless := fun _ _ _ _ _ => rfl

/-- The cluster when some bulk calls were answered: what they wrote into an index, and how many
operations each had. -/
def written (c : MemoryCluster) (index : String) (log : List Nat) (ops : List Operation) :
    MemoryCluster :=
  ({ c with bulkBatches := log } : MemoryCluster).mapDocs index
    (ops.foldl (Operation.revise c.failingIds))

theorem written_written (c : MemoryCluster) (index : String) (log log' : List Nat)
    (xs ys : List Operation) :
    (c.written index log xs).written index log' ys = c.written index log' (xs ++ ys) := by
  show (({ c with bulkBatches := log' } : MemoryCluster).mapDocs index
    (xs.foldl (Operation.revise c.failingIds))).mapDocs
    index (ys.foldl (Operation.revise c.failingIds)) = _
  rw [mapDocs_mapDocs]
  unfold written
  simp only [List.foldl_append]

theorem docs?_written (c : MemoryCluster) (index : String) (log : List Nat) (ops : List Operation) :
    (c.written index log ops).docs? index = (c.docs? index).map fun docs => ops.foldl
    (Operation.revise c.failingIds) docs := by
  unfold written
  rw [docs?_mapDocs, if_pos rfl]
  rfl

theorem docs?_written_of_ne (c : MemoryCluster) (log : List Nat) (ops : List Operation)
    {index other : String} (h : other ≠ index) :
    (c.written index log ops).docs? other = c.docs? other := by
  unfold written
  rw [docs?_mapDocs, if_neg h.symm]
  rfl

theorem written_nil (c : MemoryCluster) (index : String) : c.written index c.bulkBatches [] = c :=
  mapDocs_eq_self fun _ _ => rfl

theorem Quiet.written {c : MemoryCluster} (hc : c.Quiet) (index : String) (log : List Nat)
    (ops : List Operation) :
    (c.written index log ops).Quiet := ⟨hc.rejections, hc.transportFailures⟩

variable {c : MemoryCluster} {index : String} {f : Flight Unit}

/-- Where nothing is in the way the first answer to a batch is the end of it. -/
theorem bulk_quiet (hc : c.Quiet) (index : String) (s : Submission) :
    bulk index s.attempt c =
        (.items (applyAll index s.attempt c).1,
          c.written index (c.bulkBatches ++ [s.attempt.length]) s.attempt) ∧
      s.receive? (.items (applyAll index s.attempt c).1) =
        some (.finished
          (.completed (Slot.results (Slot.fill s.slots (applyAll index s.attempt c).1)))) := by
  have settled : Slot.pushedBack s.attempt (applyAll index s.attempt c).1 = [] :=
    Slot.pushedBack_of_settled (settled_applyAll hc.rejections index s.attempt)
  refine ⟨?_, Submission.receive_of_settled (applyAll_length index s.attempt c) settled⟩
  rw [bulk_eq hc.transportFailures]
  unfold answered
  rw [applyAll_revises hc.rejections]
  rfl

/-- What is heard of a batch is its end. -/
theorem hear_quiet (hc : c.Quiet) (index : String) (now : Nat) (f : Flight Unit) :
    f.hear now (bulk index f.submission.attempt c).1 =
      .landed (.reported (.completed (Slot.results (Slot.fill f.submission.slots
        (applyAll index f.submission.attempt c).1)))) := by
  obtain ⟨answered, verdict⟩ := bulk_quiet hc index f.submission
  unfold Flight.hear
  rw [answered]
  dsimp only
  rw [verdict]

/-- A batch lands with its first call. -/
theorem land_quiet (hc : c.Quiet) (index : String) (hp : f.phase = .sending) :
    f.land cluster index c =
      (.reported (.completed
        (Slot.results (Slot.fill f.submission.slots (applyAll index f.submission.attempt c).1))),
        c.written index (c.bulkBatches ++ [f.submission.attempt.length]) f.submission.attempt) := by
  obtain ⟨answered, verdict⟩ := bulk_quiet hc index f.submission
  have round :=
    Flight.land_round hp (show cluster.bulk f.due index f.submission.attempt c = _ from answered)
  rw [verdict] at round
  exact round

/-- If calls take no time, a batch lands as soon as it is let go. -/
theorem run_quiet (hc : c.Quiet) (hl : c.latency = 0) (index : String) (now : Nat)
    (hp : f.phase = .sending) :
    ∃ landing d, f.run cluster index now c = (.landed landing, d) := by
  let sent : Flight Unit := { f with phase := .awaiting (), due := now + min c.latency longestWait }
  have begun : f.step cluster index now c = (.airborne sent, c) := by
    unfold Flight.step
    rw [hp]
    rfl
  have due : sent.due ≤ now := by
    show now + min c.latency longestWait ≤ now
    omega
  have heard := congrArg (·, (bulk index f.submission.attempt c).2) (hear_quiet hc index now sent)
  exact ⟨_, _, (Flight.run_of_airborne begun due).trans (Flight.run_of_landed heard)⟩

end MemoryCluster

theorem Submission.attempt_ofOperations (ops : List Operation) (backoff : BackoffPolicy) :
    (ofOperations ops backoff).attempt = ops := by
  rw [attempt_eq]
  unfold ofOperations Slot.openOperations
  induction ops with
  | nil => rfl
  | cons op ops ih => exact congrArg (op :: ·) ih

/-- Results for a batch that is sent for the first time. -/
theorem Submission.results_ofOperations {ops : List Operation} {items : List ItemResult}
    (backoff : BackoffPolicy) (h : items.length = ops.length) :
    Slot.results (Slot.fill (ofOperations ops backoff).slots items) = items := by
  refine Slot.results_fill (fun s hs => ?_) (h.trans (List.length_map ..).symm)
  obtain ⟨op, -, rfl⟩ := List.mem_map.1 hs
  rfl

namespace MemoryCluster

variable {c : MemoryCluster} {index : String}

/-- What comes after a batch is accounted for where the batch left the index and the ledger. -/
theorem tally_written (c : MemoryCluster) (index : String) (log : List Nat) (xs ys : List Operation)
    (t : RunTally) :
    (Accounted.executeAll c.failingIds ys ⟨(c.written index log xs).docs? index,
        (Accounted.executeAll c.failingIds xs ⟨c.docs? index, t⟩).tally⟩).tally =
      (Accounted.executeAll c.failingIds (xs ++ ys) ⟨c.docs? index, t⟩).tally := by
  rw [docs?_written, Accounted.executeAll_append,
    ← Accounted.docs_executeAll c.failingIds xs ⟨c.docs? index, t⟩]

/-- A single batch of which nothing is pushed back. -/
theorem deliver_quiet (hc : c.Quiet) (index : String) (backoff : BackoffPolicy) (t : RunTally)
    (batch : List Operation) :
    deliver cluster index backoff (c, t) batch =
      (c.written index (c.bulkBatches ++ [batch.length]) batch,
        (Accounted.executeAll c.failingIds batch ⟨c.docs? index, t⟩).tally) := by
  let flight : Flight Unit :=
    { batch := 0, submission := .ofOperations batch backoff, phase := .sending, due := 0 }
  have landed := land_quiet (f := flight) hc index rfl
  rw [show flight.submission.attempt = batch from Submission.attempt_ofOperations batch backoff]
    at landed
  rw [Submission.results_ofOperations backoff (applyAll_length index batch c)] at landed
  unfold deliver
  dsimp only
  rw [landed]
  exact Prod.ext rfl (applyAll_accounts hc.rejections index batch t)

/-- **Batches of which nothing is pushed back** are carried out as if they were one. -/
theorem deliverAll_quiet (hc : c.Quiet) (index : String) (backoff : BackoffPolicy) (t : RunTally)
    (batches : List (List Operation)) :
    ∃ log, batches.foldl (deliver cluster index backoff) (c, t) =
      (c.written index log batches.flatten,
        (Accounted.executeAll c.failingIds batches.flatten ⟨c.docs? index, t⟩).tally) := by
  induction batches generalizing c t with
  | nil => exact ⟨c.bulkBatches, by rw [List.flatten_nil, written_nil]; rfl⟩
  | cons batch batches ih =>
    have first := deliver_quiet hc index backoff t batch
    obtain ⟨log, others⟩ := ih (hc.written index (c.bulkBatches ++ [batch.length]) batch)
      (Accounted.executeAll c.failingIds batch ⟨c.docs? index, t⟩).tally
    refine ⟨log, ?_⟩
    rw [List.foldl_cons, first, others, written_written, List.flatten_cons]
    exact Prod.ext rfl
      (tally_written c index (c.bulkBatches ++ [batch.length]) batch batches.flatten t)

/-- A call that pushes back no more than it carries has nothing left to push back. -/
theorem applyAll_of_few (index : String) (ops : List Operation) (few : c.rejections ≤ ops.length) :
    (applyAll index ops c).2 =
      ({ c with rejections := 0 } : MemoryCluster).written index c.bulkBatches
        (ops.drop c.rejections) := by
  rw [applyAll_pushesBack, Nat.sub_eq_zero_of_le few]
  exact applyAll_revises (c := { c with rejections := 0 }) rfl index _

/-- A call that pushes back more than it carries carries nothing out. -/
theorem applyAll_of_many (index : String) (ops : List Operation)
    (many : ops.length ≤ c.rejections) :
    (applyAll index ops c).2 = { c with rejections := c.rejections - ops.length } := by
  rw [applyAll_pushesBack, List.drop_eq_nil_of_le many]
  rfl

/-- What a call pushes back is sent again, if the batch is to end without failures. -/
theorem land_pushed {f : Flight Unit} (ht : c.transportFailures = 0) (hr : c.rejections ≠ 0)
    (index : String) (hp : f.phase = .sending) (filled : f.submission.attempt ≠ [])
    (clean : (f.land cluster index c).1.fails = false) :
    ∃ next due, next.attempt = f.submission.attempt.take c.rejections ∧
      f.submission.delays.remaining = next.delays.remaining + 1 ∧
      f.land cluster index c =
        ({ f with submission := next, due } : Flight Unit).land cluster index
          (c.answered index f.submission.attempt) := by
  let ops := f.submission.attempt
  have call : cluster.bulk f.due index ops c = (.items (applyAll index ops c).1,
    c.answered index ops) :=
    bulk_eq ht index ops
  have round := Flight.land_round hp call
  have pushed : Slot.pushedBack ops (applyAll index ops c).1 = ops.take c.rejections :=
    pushedBack_applyAll index ops c
  have some : ops.take c.rejections ≠ [] := fun none => (List.take_eq_nil_iff.1 none).elim hr filled
  obtain ⟨result, verdict, fails⟩ | ⟨wait, next, verdict, attempt⟩ :=
    Submission.receive_of_pushedBack (applyAll_length index ops c) (pushed ▸ some)
  · rw [verdict] at round
    rw [round, fails] at clean
    cases clean
  · rw [verdict] at round
    obtain ⟨due, round⟩ := round
    exact ⟨next, due, attempt.trans pushed, Submission.remaining_of_receive verdict, round⟩

/-- What was pushed back comes behind what was carried out, and that is a rotation. -/
theorem written_answered (c : MemoryCluster) (index : String) (log : List Nat)
    (ops : List Operation) :
    ({ c.answered index ops with rejections := 0 } : MemoryCluster).written index log
        ((ops.take c.rejections).rotate (c.answered index ops).rejections) =
      ({ c with rejections := 0 } : MemoryCluster).written index log (ops.rotate c.rejections) := by
  unfold answered
  by_cases few : c.rejections ≤ ops.length
  · rw [applyAll_of_few index ops few, List.rotate_eq_drop_append_take few, ← written_written]
    exact congrArg (written _ index log) (List.rotate_zero _)
  · have many : ops.length ≤ c.rejections := by omega
    rw [applyAll_of_many index ops many, List.take_of_length_le many]
    have turns : (c.rejections - ops.length) % ops.length = c.rejections % ops.length :=
      (Nat.mod_eq_sub_mod many).symm
    have rotated : ops.rotate (c.rejections - ops.length) = ops.rotate c.rejections := by
      rw [← List.rotate_mod, turns, List.rotate_mod]
    exact congrArg (written ({ c with rejections := 0 } : MemoryCluster) index log) rotated

theorem transportFailures_answered (c : MemoryCluster) (index : String) (ops : List Operation) :
    (c.answered index ops).transportFailures = c.transportFailures := by
  unfold answered
  by_cases few : c.rejections ≤ ops.length
  · rw [applyAll_of_few index ops few]
    rfl
  · rw [applyAll_of_many index ops (by omega)]

/-- **A batch that ends without failures** was carried out in a rotated order: what was pushed back
came last. -/
theorem land_rotated {f : Flight Unit} (ht : c.transportFailures = 0) (index : String)
    (hp : f.phase = .sending) (filled : f.submission.attempt ≠ [])
    (clean : (f.land cluster index c).1.fails = false) :
    ∃ log, (f.land cluster index c).2 =
      ({ c with rejections := 0 } : MemoryCluster).written index log
        (f.submission.attempt.rotate c.rejections) := by
  -- every round that pushes something back uses up a wait
  induction hw : f.submission.delays.remaining using Nat.strongRecOn generalizing f c with
  | ind waits ih =>
    by_cases hr : c.rejections = 0
    · have same : ({ c with rejections := 0 } : MemoryCluster) = c := by rw [← hr]
      have landed := land_quiet (f := f) ⟨hr, ht⟩ index hp
      rw [landed, same, hr, List.rotate_zero]
      exact ⟨_, rfl⟩
    · obtain ⟨next, due, attempt, fewer, again⟩ := land_pushed ht hr index hp filled clean
      have left : next.attempt ≠ [] := by
        rw [attempt]
        exact fun none => (List.take_eq_nil_iff.1 none).elim hr filled
      rw [again] at clean ⊢
      obtain ⟨log, landed⟩ :=
        ih next.delays.remaining (by omega) (f := { f with submission := next, due })
        ((transportFailures_answered c index _).trans ht) hp left clean rfl
      refine ⟨log, landed.trans ?_⟩
      rw [← written_answered c index log f.submission.attempt, ← attempt]

/-- **Batches of which operations are pushed back** are carried out as they stand, but for the first
of them. -/
theorem deliverAll_rotated (ht : c.transportFailures = 0) (index : String) (backoff : BackoffPolicy)
    (t : RunTally) {batches : List (List Operation)} (filled : ∀ batch ∈ batches, batch ≠ [])
    (clean : (batches.foldl (deliver cluster index backoff) (c, t)).2.failed = false) :
    (batches.foldl (deliver cluster index backoff) (c, t)).1.docs? index =
    (c.docs? index).map fun docs =>
      ((batches.headD []).rotate c.rejections ++ batches.tail.flatten).foldl
        (Operation.revise c.failingIds) docs := by
  cases batches with
  | nil => simp
  | cons first rest =>
    let flight : Flight Unit :=
      { batch := 0, submission := .ofOperations first backoff, phase := .sending, due := 0 }
    let told := flight.land cluster index c
    have attempt : flight.submission.attempt = first :=
      Submission.attempt_ofOperations first backoff
    have begun : deliver cluster index backoff (c, t) first = (told.2, t.settle told.1) := rfl
    rw [List.foldl_cons, begun] at clean ⊢
    have settled := clean_of_delivered clean
    rw [RunTally.failed_settle, Bool.or_eq_false_iff] at settled
    obtain ⟨log, landed⟩ :=
      land_rotated (f := flight) ht index rfl (attempt ▸ filled first (.head _)) settled.2
    rw [attempt] at landed
    rw [show told.2 = _ from landed]
    -- nothing is left to push back
    have still : ({ c with rejections := 0 } : MemoryCluster).Quiet := ⟨rfl, ht⟩
    obtain ⟨log', others⟩ :=
      deliverAll_quiet (still.written index log (first.rotate c.rejections)) index backoff
      (t.settle told.1) rest
    rw [others, written_written, docs?_written]
    rfl

end MemoryCluster

/-! ## Documents behind a rotated batch -/

/-- What a filter keeps of a rotated list is rotated by what it keeps of the front. -/
theorem filter_rotate {α : Type} (p : α → Bool) (l : List α) (n : Nat) :
    (l.rotate n).filter p = (l.filter p).rotate ((l.take (n % l.length)).filter p).length := by
  have parts : (l.take (n % l.length)).filter p ++ (l.drop (n % l.length)).filter p =
    l.filter p := by
    rw [← List.filter_append, List.take_append_drop]
  rw [List.rotate_eq_drop_append_take_mod, List.filter_append, ← parts,
    List.rotate_append_length_eq]

namespace Operation

/-- The document under an id when the operations in front are rotated. Its own operations among them
are rotated too, by as many as there are in the part that moves to the back; the document stays as
it was if this part has none of them, or all. -/
theorem get?_foldl_rotated (failing : List String) (docs : Dict String)
    (first rest : List Operation) (n : Nat) (id : String) :
    let own := first.filter (·.id = id)
    let back := (first.take (n % first.length)).filter (·.id = id)
    let written := (first.rotate n ++ rest).foldl (revise failing) docs
    written.get? id = (own.rotate back.length ++ rest.filter (·.id = id)).foldl (rewrite failing)
      (docs.get? id) ∧
      (back = [] ∨ back = own → written.get? id =
        ((first ++ rest).filter (·.id = id)).foldl (rewrite failing) (docs.get? id)) := by
  intro own back written
  have turned : written.get? id =
      (own.rotate back.length ++ rest.filter (·.id = id)).foldl (rewrite failing)
        (docs.get? id) := by
    show ((first.rotate n ++ rest).foldl (revise failing) docs).get? id = _
    rw [get?_foldl_revise, List.filter_append, filter_rotate]
  refine ⟨turned, fun kept => ?_⟩
  have unturned : own.rotate back.length = own := by
    rcases kept with none | all
    · simp [none]
    · rw [all, List.rotate_length]
  rw [turned, unturned, List.filter_append]

end Operation

end Reindex
