import Reindex.Cluster.Script
import Reindex.Proofs.Bulk.Batch
import Reindex.Proofs.Bulk.Retry

/-!
# Batches that were answered

A batch whose answers are about what was sent ends with a result for each of its operations, or it
is lost. It is lost if its last call failed and nothing was settled until then. That is not the same
as never having been answered: answers that pushed everything back settle nothing, and a failure
behind them loses the batch all the same.

Main statement: `Flight.land_answered`. `Flight.land_lost_answered` is a batch that was answered and
is lost.
-/

namespace Reindex

variable {σ τ : Type}

/-- An answer that settles an operation: one of its results was not pushed back. -/
def BulkAnswer.settles : BulkAnswer → Bool
  | .items results => results.any (!·.isRejected)
  | _ => false

namespace Round

variable {ops : List Operation} {retries : Nat} {before rounds : List Round} {r : Round}
    {landing : Landing} {p : Nat}

/-! ## Results about their operations -/

theorem target_of_lookup {places : List Nat} {results : List ItemResult} {item : ItemResult}
    (inside : ∀ p ∈ places, p < ops.length)
    (fits : results.map ItemResult.target = (places.filterMap (ops[·]?)).map Operation.target)
    (h : (places.zip results).lookup p = some item) :
    ops[p]?.map Operation.target = some item.target := by
  induction places generalizing results with
  | nil => cases h
  | cons q places ih =>
    obtain ⟨op, here⟩ : ∃ op, ops[q]? = some op :=
      ⟨_, List.getElem?_eq_getElem (inside q (.head _))⟩
    rw [List.filterMap_cons, here] at fits
    cases results with
    | nil => cases h
    | cons result results =>
      obtain ⟨same, rest⟩ := List.cons.inj fits
      rw [List.zip_cons_cons, List.lookup_cons] at h
      split at h
      · rename_i hit
        cases h
        rw [eq_of_beq hit, here]
        exact congrArg some same.symm
      · exact ih (fun p hp => inside p (.tail _ hp)) rest h

theorem target_of_result {item : ItemResult} (placed : r.places = due ops before)
    (fits : r.answer.Fits (r.call ops).ops) (h : r.result? p = some item) :
    ops[p]?.map Operation.target = some item.target := by
  unfold result? at h
  split at h
  · rename_i results answer
    rw [answer] at fits
    exact target_of_lookup (fun p hp => (mem_due.1 (placed ▸ hp)).1) fits h
  · cases h

/-- What is known of an operation is about it. -/
theorem target_of_latest {item : ItemResult} (placed : Placed ops rounds)
    (fits : ∀ r ∈ rounds, r.answer.Fits (r.call ops).ops) (h : latest? rounds p = some item) :
    ops[p]?.map Operation.target = some item.target := by
  obtain ⟨r, hr, result⟩ := List.mem_filterMap.1 (List.mem_of_getLast? h)
  obtain ⟨before, after, rfl⟩ := List.append_of_mem hr
  exact target_of_result (placed before r after rfl) (fits r hr) result

theorem target_of_outcome {item : ItemResult} (placed : Placed ops rounds)
    (fits : ∀ r ∈ rounds, r.answer.Fits (r.call ops).ops) (h : outcome? ops rounds p = some item) :
    ops[p]?.map Operation.target = some item.target := by
  unfold outcome? at h
  split at h
  · split at h
    · obtain ⟨op, hop, rfl⟩ := Option.map_eq_some_iff.1 h
      rw [hop]
      rfl
    · exact target_of_latest placed fits h
  · obtain ⟨latest, hl, rfl⟩ := Option.map_eq_some_iff.1 h
    rw [ItemResult.giveUp_target]
    exact target_of_latest placed fits hl

/-- The results of a batch are about its operations, in order. -/
theorem Ended.fits (h : Ended ops retries before r landing)
    (fits : ∀ q ∈ before ++ [r], q.answer.Fits (q.call ops).ops) {items : List ItemResult}
    (hl : landing = .reported (.completed items)) :
    items.map ItemResult.target = ops.map Operation.target := by
  have outcomes := (h.completed hl).1
  obtain ⟨s, hu, placed, -⟩ := h
  refine List.ext_getElem? fun p => ?_
  have here := congrArg (·[p]?) outcomes
  simp only [List.getElem?_map] at here ⊢
  by_cases hp : p < ops.length
  · rw [List.getElem?_range hp] at here
    obtain ⟨item, hi, outcome⟩ := Option.map_eq_some_iff.1 here
    rw [hi, target_of_outcome (hu.placed.append placed) fits outcome.symm]
    rfl
  · have beyond : (List.range ops.length)[p]? = none := List.getElem?_eq_none (by simpa using hp)
    rw [beyond] at here
    rw [Option.map_eq_none_iff.1 here, List.getElem?_eq_none (Nat.le_of_not_lt hp)]
    rfl

/-! ## Batches of which nothing is settled -/

theorem due_eq_range :
    due ops rounds = List.range ops.length ↔
    ∀ p < ops.length, Slot.isDue (latest? rounds p) = true := by
  unfold due Slot.duePlaces
  rw [List.range_eq_range', List.filter_eq_self]
  simp

/-- A call that carried all operations left none out. -/
theorem Underway.due_of_whole {s : Submission} (hu : Underway ops retries before s)
    (whole : s.attempt = ops) :
    due ops before = List.range ops.length := by
  have length := hu.length_attempt
  rw [whole] at length
  unfold due Slot.duePlaces at length ⊢
  rw [List.range_eq_range']
  refine List.filter_eq_self.2 (List.length_filter_eq_length_iff.1 ?_)
  rw [← length, List.length_range']

theorem ops_of_whole {r : Round} (h : r.places = List.range ops.length) :
    (r.call ops).ops = ops := by
  show r.places.filterMap (ops[·]?) = ops
  rw [h, filterMap_range, List.take_length]

/-- **A batch is lost by a failure of a call that carried all of it.** -/
theorem Ended.lost_iff (h : Ended ops retries before r landing)
    (fits : r.answer.Fits (r.call ops).ops) (failure : BulkFailure) :
    landing = .reported (.transportFailed failure) ↔ r.call ops = ⟨ops, .failed failure⟩ := by
  constructor
  · intro hl
    obtain ⟨before', r', same, lost⟩ := h.lost hl
    obtain ⟨-, last⟩ := List.append_inj' same rfl
    cases last
    obtain ⟨answer, whole⟩ | ⟨results, answer, other⟩ := lost
    · rw [call, answer]
      exact congrArg (BulkCall.mk · _) (ops_of_whole whole)
    · obtain ⟨s, hu, placed, -⟩ := h
      rw [answer] at fits
      refine absurd ?_ other
      have length := congrArg List.length fits
      rw [List.length_map, List.length_map,
        show (r.call ops).ops = s.attempt by
          rw [hu.attempt, ← placed]; rfl, hu.length_attempt, ← placed] at length
      exact length
  · intro hc
    obtain ⟨sent, answer⟩ := BulkCall.mk.inj hc
    obtain ⟨s, hu, placed, verdict⟩ := h
    have whole : due ops before = List.range ops.length :=
      hu.due_of_whole (by rw [hu.attempt, ← placed]; exact sent)
    have allOpen : s.slots.all Slot.isOpen = true := by
      rw [hu.slots]
      simpa using (Slot.all_ofAnswers (latest? before) 0 ops true).2
        (by simpa using due_eq_range.1 whole)
    rw [answer] at verdict
    simp only [Submission.receive?, Submission.receiveFailure, Submission.abandon, if_pos allOpen]
      at verdict
    split at verdict
    · rename_i finished
      cases finished
    · rename_i finished
      split at finished
      · split at finished <;> cases finished
        exact verdict
      · cases finished
        exact verdict
    · exact verdict.elim

/-- What is open in the end was open all along. -/
theorem due_of_later {after : List Round} (placed : Placed ops (rounds ++ after))
    (h : due ops (rounds ++ after) = List.range ops.length) :
    due ops rounds = List.range ops.length := by
  refine due_eq_range.2 fun p hp => ?_
  have still := due_eq_range.1 h p hp
  cases hl : latest? rounds p with
  | none => rfl
  | some item =>
    cases rejected : item.isRejected with
    | true => exact rejected
    | false =>
      rw [latest?_of_settled placed hl rejected] at still
      cases rejected.symm.trans still

theorem mem_of_lookup {places : List Nat} {results : List ItemResult} {item : ItemResult}
    (h : (places.zip results).lookup p = some item) : p ∈ places := by
  obtain ⟨_, _, split, -⟩ := List.lookup_eq_some_iff.1 h
  exact (List.of_mem_zip (split ▸ List.mem_append_right _ (.head _))).1

theorem exists_lookup {places : List Nat} {results : List ItemResult} {item : ItemResult}
    (nodup : places.Nodup) (length : results.length = places.length) (h : item ∈ results) :
    ∃ p, (places.zip results).lookup p = some item := by
  induction places generalizing results with
  | nil =>
    rw [List.eq_nil_of_length_eq_zero length] at h
    cases h
  | cons q places ih =>
    obtain ⟨fresh, nodup⟩ := List.nodup_cons.1 nodup
    cases h with
    | head results => exact ⟨q, by rw [List.zip_cons_cons, List.lookup_cons_self]⟩
    | tail result h =>
      obtain ⟨p, hp⟩ := ih nodup (Nat.succ.inj length) h
      have other : (p == q) = false := beq_eq_false_iff_ne.2 fun same =>
        fresh (same ▸ mem_of_lookup hp)
      exact ⟨p, by rw [List.zip_cons_cons, List.lookup_cons, other]; exact hp⟩

/-- **A batch that is lost was never settled.** All rounds before the last one carried all of it,
and were of no use. -/
theorem Ended.unsettled (h : Ended ops retries before r landing)
    (whole : due ops before = List.range ops.length) {q : Round} (hq : q ∈ before) :
    (q.call ops).ops = ops ∧ q.answer.settles = false := by
  obtain ⟨s, hu, placed, -⟩ := id h
  obtain ⟨earlier, later, rfl⟩ := List.append_of_mem hq
  have here : q.places = List.range ops.length :=
    (hu.placed earlier q later rfl).trans (due_of_later hu.placed whole)
  refine ⟨ops_of_whole here, ?_⟩
  unfold BulkAnswer.settles
  split
  · rename_i results answer
    have repeats := hu.repeats q hq
    unfold Repeats at repeats
    rw [answer] at repeats
    refine List.any_eq_false.2 fun item hi => ?_
    obtain ⟨p, hp⟩ := exists_lookup (here ▸ List.nodup_range) repeats hi
    have result : q.result? p = some item := by rw [result?, answer]; exact hp
    cases rejected : item.isRejected with
    | true => simp
    | false =>
      refine absurd ?_
        (h.retried.settled earlier q (later ++ [r]) p item (by simp) result rejected r (by simp))
      rw [placed, whole, ← here]
      exact mem_of_lookup hp
  · rfl

end Round

/-! ## How a batch ends -/

/-- What the calls of a batch have to do with its end. -/
structure Answered (ops : List Operation) (calls : List BulkCall) (landing : Landing) : Prop where
  /-- There is a result about each operation, and each is counted once; or the batch is lost, which
  counts nothing and marks the run. -/
  ends : (∃ items, landing = .reported (.completed items) ∧
    items.map ItemResult.target = ops.map Operation.target ∧
      ∀ tally : RunTally,
        (tally.settle landing).counters.total = tally.counters.total + ops.length) ∨
    ∃ failure, landing = .reported (.transportFailed failure) ∧
      ∀ tally : RunTally, tally.settle landing = { tally with failed := true }
  /-- It is lost exactly if the last call carried all of it and failed. -/
  lost : ∀ failure, landing = .reported (.transportFailed failure) ↔
    ∃ before, calls = before ++ [⟨ops, .failed failure⟩]
  /-- Then every call carried all of it, and no answer settled an operation. -/
  unsettled : ∀ failure, landing = .reported (.transportFailed failure) →
    ∀ call ∈ calls, call.ops = ops ∧ call.answer.settles = false

namespace Answered

variable {ops : List Operation} {calls : List BulkCall} {landing : Landing}

/-- **An answer that settles an operation** keeps the batch from being lost: all of it is
counted. -/
theorem counted_of_settled (h : Answered ops calls landing) {call : BulkCall} (hc : call ∈ calls)
    (settles : call.answer.settles = true) (tally : RunTally) :
    (tally.settle landing).counters.total = tally.counters.total + ops.length := by
  obtain ⟨items, -, -, counted⟩ | ⟨failure, lost, -⟩ := h.ends
  · exact counted tally
  · cases settles.symm.trans (h.unsettled failure lost call hc).2

end Answered

theorem Round.Ended.answered {ops : List Operation} {retries : Nat} {before : List Round}
    {r : Round} {landing : Landing} (h : Ended ops retries before r landing)
    (fits : ∀ q ∈ before ++ [r], q.answer.Fits (q.call ops).ops) :
    Answered ops ((before ++ [r]).map (call ops)) landing := by
  have last : r.answer.Fits (r.call ops).ops := fits r (List.mem_append_right _ (.head _))
  refine ⟨?_, fun failure => ?_, fun failure lost => ?_⟩
  · cases hl : landing with
    | died =>
      obtain ⟨q, hq, died⟩ := h.retried.died hl
      have fit := fits q hq
      rw [died] at fit
      exact fit.elim
    | reported result =>
      cases result with
      | completed items =>
        have targets := h.fits fits hl
        refine .inl ⟨items, rfl, targets, fun tally => (tally.total_bookItems items).trans ?_⟩
        have length := congrArg List.length targets
        rw [List.length_map, List.length_map] at length
        rw [length]
      | transportFailed failure => exact .inr ⟨failure, rfl, fun _ => rfl⟩
  · rw [h.lost_iff last, List.map_append]
    constructor
    · intro whole
      exact ⟨before.map (call ops), by rw [List.map_singleton, whole]⟩
    · rintro ⟨others, same⟩
      obtain ⟨-, whole⟩ := List.append_inj' same rfl
      exact List.singleton_inj.1 whole
  · have whole := (h.lost_iff last failure).1 lost
    obtain ⟨s, hu, placed, -⟩ := id h
    obtain ⟨sent, answer⟩ := BulkCall.mk.inj whole
    have due : due ops before = List.range ops.length :=
      hu.due_of_whole (by rw [hu.attempt, ← placed]; exact sent)
    intro c hc
    obtain ⟨q, hq, rfl⟩ := List.mem_map.1 hc
    rcases List.mem_append.1 hq with hq | hq
    · exact h.unsettled due hq
    · cases List.mem_singleton.1 hq
      exact ⟨sent, by rw [whole]; rfl⟩

/-- **How a batch ends whose answers are about what was sent,** on any cluster. -/
theorem Flight.land_answered (cluster : Cluster σ τ) (index : String) (batch now : Nat)
    (ops : List Operation) (backoff : BackoffPolicy) (s : σ) :
    let flight : Flight τ :=
      { batch, submission := .ofOperations ops backoff, phase := .sending, due := now }
    let told := flight.land cluster.logged index ⟨s, []⟩
    (∀ call ∈ told.2.calls, call.answer.Fits call.ops) →
      flight.land cluster index s = (told.1, told.2.state) ∧ Answered ops told.2.calls told.1 := by
  intro flight told fits
  obtain ⟨before, r, calls, ended⟩ :=
    flight.rounds_of_land cluster index (s := ⟨s, []⟩) rfl
      (Round.Underway.ofOperations ops backoff) rfl
  refine ⟨flight.land_logged cluster index ⟨s, []⟩, ?_⟩
  have record : told.2.calls = (before ++ [r]).map (Round.call ops) := calls
  rw [record] at fits ⊢
  exact ended.answered fun q hq => fits _ (List.mem_map_of_mem hq)

/-- The end of a batch that goes to a cluster with a script, and its calls. -/
def ScriptedCluster.follow (script : List Cue) (ops : List Operation) : Landing × List BulkCall :=
  let flight : Flight Cue :=
    { batch := 1, submission := .ofOperations ops {}, phase := .sending, due := 0 }
  let told := flight.land ScriptedCluster.cluster.logged "books" ⟨⟨script, []⟩, []⟩
  (told.1, told.2.calls)

/-- One of two operations is carried out and the other pushed back before the network is gone. Both
are counted. -/
theorem Flight.land_answered_half :
    let told := ScriptedCluster.follow [⟨.statuses [(200, none), (429, none)], 0⟩,
      ⟨.failed (.lasting "gone"), 0⟩]
      [⟨.delete, "A", none⟩, ⟨.delete, "B", none⟩]
    (∀ call ∈ told.2, call.answer.Fits call.ops) ∧
      told.1 = .reported
        (.completed [.done ⟨.delete, "A", none⟩ 200, .refused ⟨.delete, "B", none⟩ 0 "gone"]) ∧
      (({} : RunTally).settle told.1).counters.total = 2 := by
  intro told
  have calls : told.2 = [⟨[⟨.delete, "A", none⟩, ⟨.delete, "B", none⟩],
      .items [.done ⟨.delete, "A", none⟩ 200, .done ⟨.delete, "B", none⟩ 429]⟩,
      ⟨[⟨.delete, "B", none⟩], .failed (.lasting "gone")⟩] := by decide +kernel
  have fits : ∀ call ∈ told.2, call.answer.Fits call.ops := by
    rw [calls]
    simp [BulkAnswer.Fits, ItemResult.target, Operation.target, ItemResult.done]
  obtain ⟨-, answered⟩ := land_answered ScriptedCluster.cluster "books" 1 0 _ {} ⟨_, []⟩ fits
  obtain ⟨call, there, settles⟩ : ∃ call ∈ told.2, call.answer.settles = true := by
    rw [calls]
    exact ⟨_, .head _, rfl⟩
  exact ⟨fits, by decide +kernel, answered.counted_of_settled there settles {}⟩

/-- **A batch can be answered and lost.** Its only operation is pushed back, which is an answer
about it, and then the network is gone: nothing is counted. -/
theorem Flight.land_lost_answered :
    let told := ScriptedCluster.follow [⟨.each 429, 0⟩, ⟨.failed (.lasting "gone"), 0⟩]
      [⟨.delete, "A", none⟩]
    (∀ call ∈ told.2, call.answer.Fits call.ops) ∧
      (∃ call ∈ told.2, call.answer = .items [.done ⟨.delete, "A", none⟩ 429]) ∧
      told.1 = .reported (.transportFailed (.lasting "gone")) ∧
        (({} : RunTally).settle told.1).counters.total = 0 := by
  intro told
  have calls : told.2 = [⟨[⟨.delete, "A", none⟩], .items [.done ⟨.delete, "A", none⟩ 429]⟩,
      ⟨[⟨.delete, "A", none⟩], .failed (.lasting "gone")⟩] := by decide +kernel
  refine ⟨?_, ⟨_, by rw [calls]; exact .head _, rfl⟩, by decide +kernel, by decide +kernel⟩
  rw [calls]
  simp [BulkAnswer.Fits, ItemResult.target, Operation.target, ItemResult.done]

end Reindex
