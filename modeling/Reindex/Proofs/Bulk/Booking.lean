import Reindex.Proofs.Bulk.Acknowledged

/-!
# The laws of booking

Batches end in any order, and each end is booked in the ledger when it is noticed. A result goes
into one counter and into no other, counters do not go down, and the mark of a failed run does not
go away. Behind any ends the ledger tells how many results went where, and whether one of them
failed or a batch was lost; in which order they were booked it does not tell.

Main statements: `RunTally.counter_bookItem` for one result, `RunTally.tells_bookAll` for a whole
run, and `RunTally.bookAll_laws`.
-/

namespace Reindex

/-! ## Counters -/

/-- The counters of a ledger. -/
inductive Counter where
  | succeeded
  | failed
  | deleted
deriving DecidableEq, Repr

/-- What a counter shows. -/
def RunCounters.shown (c : RunCounters) : Counter → Nat
  | .succeeded => c.succeeded
  | .failed => c.failed
  | .deleted => c.deleted

/-- The counter that a result goes into: an error makes it a failure, whatever it is about. -/
def ItemResult.counter (r : ItemResult) : Counter :=
  if r.error.isSome then .failed else if r.kind = .delete then .deleted else .succeeded

namespace RunCounters

theorem shown_plus (a b : RunCounters) (k : Counter) :
    (a.plus b).shown k = a.shown k + b.shown k := by
  cases k <;> rfl

/-- A counter shows how many results went into it. -/
theorem shown_ofItems (items : List ItemResult) (k : Counter) :
    (ofItems items).shown k = items.countP fun r => decide (r.counter = k) := by
  have goes (r : ItemResult) : decide (r.counter = k) = match k with
      | .succeeded => r.isWritten
      | .failed => r.isFailed
      | .deleted => r.isDeleted := by
    obtain ⟨kind, id, status, error⟩ := r
    cases k <;> cases error <;> cases kind <;> rfl
  simp only [goes]
  cases k <;> rfl

end RunCounters

namespace RunTally

/-- **A result moves one counter,** by one. -/
theorem counter_bookItem (t : RunTally) (r : ItemResult) (k : Counter) :
    (t.bookItem r).counters.shown k = t.counters.shown k + if r.counter = k then 1 else 0 := by
  rw [counters_bookItem, RunCounters.shown_plus, RunCounters.shown_ofItems, List.countP_singleton]
  simp

/-! ## Whole runs -/

/-- The ledger of a run whose batches ended like this, one after another. -/
def bookAll (outcomes : List BatchResult) : RunTally := outcomes.foldl book {}

/-- The results of some batches. -/
def results (outcomes : List BatchResult) : List ItemResult := outcomes.flatMap BatchResult.items

/-- What a ledger tells of the batches that were booked. -/
structure Tells (t : RunTally) (outcomes : List BatchResult) : Prop where
  /-- Each counter shows how many results went into it. -/
  counters : ∀ k, t.counters.shown k = (results outcomes).countP fun r => decide (r.counter = k)
  /-- Each result was counted once. -/
  total : t.counters.total = (results outcomes).length
  /-- The run is marked by a result with an error and by a batch that was lost, and by nothing
  else. -/
  failed : t.failed = true ↔
    (∃ r ∈ results outcomes, r.error.isSome = true) ∨
      ∃ failure, BatchResult.transportFailed failure ∈ outcomes

theorem bookAll_eq_settle (outcomes : List BatchResult) :
    bookAll outcomes = (outcomes.map .reported).foldl settle {} := by
  rw [List.foldl_map]
  rfl

theorem results_eq_items (outcomes : List BatchResult) :
    results outcomes = (outcomes.map Landing.reported).flatMap Landing.items := by
  rw [List.flatMap_map]
  rfl

theorem counters_bookAll (outcomes : List BatchResult) :
    (bookAll outcomes).counters = .ofItems (results outcomes) := by
  rw [bookAll_eq_settle, counters_foldl_settle, RunCounters.zero_plus, results_eq_items]

theorem fails_reported (outcome : BatchResult) :
    (Landing.reported outcome).fails = true ↔
      (∃ r ∈ outcome.items, r.error.isSome = true) ∨
      ∃ failure, outcome = .transportFailed failure := by
  cases outcome <;> simp [Landing.fails, Landing.isLost, Landing.items, BatchResult.items,
    ItemResult.isFailed]

theorem failed_bookAll (outcomes : List BatchResult) :
    (bookAll outcomes).failed = true ↔
      ∃ outcome ∈ outcomes, (Landing.reported outcome).fails = true := by
  rw [bookAll_eq_settle, failed_foldl_settle]
  simp

/-- **What a run leaves in its ledger.** -/
theorem tells_bookAll (outcomes : List BatchResult) : (bookAll outcomes).Tells outcomes where
  counters k := by rw [counters_bookAll, RunCounters.shown_ofItems]
  total := by rw [counters_bookAll, RunCounters.total_ofItems]
  failed := by
    rw [failed_bookAll]
    simp only [fails_reported, results, List.mem_flatMap]
    constructor
    · rintro ⟨outcome, booked, ⟨r, item, error⟩ | ⟨failure, rfl⟩⟩
      · exact .inl ⟨r, ⟨outcome, booked, item⟩, error⟩
      · exact .inr ⟨failure, booked⟩
    · rintro (⟨r, ⟨outcome, booked, item⟩, error⟩ | ⟨failure, booked⟩)
      · exact ⟨outcome, booked, .inl ⟨r, item, error⟩⟩
      · exact ⟨_, booked, .inr ⟨failure, rfl⟩⟩

/-- Counters do not go down. -/
theorem shown_mono {before outcomes : List BatchResult} (earlier : before <+: outcomes)
    (k : Counter) :
    (bookAll before).counters.shown k ≤ (bookAll outcomes).counters.shown k := by
  obtain ⟨after, rfl⟩ := earlier
  have split : results (before ++ after) = results before ++ results after := List.flatMap_append
  rw [counters_bookAll, counters_bookAll, split, RunCounters.ofItems_append, RunCounters.shown_plus]
  exact Nat.le_add_right _ _

/-- A run that is marked stays marked. -/
theorem failed_mono {before outcomes : List BatchResult} (earlier : before <+: outcomes)
    (marked : (bookAll before).failed = true) : (bookAll outcomes).failed = true := by
  obtain ⟨outcome, booked, fails⟩ := (failed_bookAll before).1 marked
  exact (failed_bookAll outcomes).2 ⟨outcome, earlier.subset booked, fails⟩

/-- A failure that was counted marks the run. -/
theorem failed_of_counted {outcomes : List BatchResult}
    (counted : 0 < (bookAll outcomes).counters.failed) :
    (bookAll outcomes).failed = true := by
  have shown := (tells_bookAll outcomes).counters .failed
  rw [show (bookAll outcomes).counters.shown .failed = (bookAll outcomes).counters.failed from rfl]
    at shown
  rw [shown, List.countP_pos_iff] at counted
  obtain ⟨r, booked, failed⟩ := counted
  refine (tells_bookAll outcomes).failed.2 (.inl ⟨r, booked, ?_⟩)
  have failed : r.counter = .failed := of_decide_eq_true failed
  unfold ItemResult.counter at failed
  split at failed
  · assumption
  · split at failed <;> cases failed

theorem bookAll_perm {outcomes other : List BatchResult} (perm : outcomes.Perm other) :
    bookAll outcomes = bookAll other := by
  rw [bookAll_eq_settle, bookAll_eq_settle, foldl_settle_perm (perm.map _)]

/-- **The laws of booking.** A result moves one counter by one. Behind any ends the ledger tells
what they came to; what it told before, it has only added to; a failure that was counted marks the
run; and any other order leaves the same ledger. -/
theorem bookAll_laws (outcomes : List BatchResult) :
    (∀ (t : RunTally) (r : ItemResult) (k : Counter),
      (t.bookItem r).counters.shown k = t.counters.shown k + if r.counter = k then 1 else 0) ∧
    (bookAll outcomes).Tells outcomes ∧
    (∀ before, before <+: outcomes →
      (∀ k, (bookAll before).counters.shown k ≤ (bookAll outcomes).counters.shown k) ∧
        ((bookAll before).failed = true → (bookAll outcomes).failed = true)) ∧
    (0 < (bookAll outcomes).counters.failed → (bookAll outcomes).failed = true) ∧
    ∀ other, outcomes.Perm other → bookAll other = bookAll outcomes :=
  ⟨counter_bookItem, tells_bookAll outcomes, fun _ earlier =>
    ⟨shown_mono earlier, failed_mono earlier⟩,
    failed_of_counted, fun _ perm => (bookAll_perm perm).symm⟩

/-- A deletion that fails is a failure, one of a document that is not there is a deletion, and a
lost batch counts nothing. -/
theorem bookAll_laws_mixed :
    let written : BatchResult :=
      .completed [⟨.index, "a", 201, none⟩, ⟨.delete, "b", 409, some "conflict"⟩]
    let lost : BatchResult := .transportFailed (.lasting "gone")
    let absent : BatchResult := .completed [⟨.delete, "c", 404, none⟩]
    bookAll [lost, written, absent] = ⟨⟨1, 1, 1⟩, true⟩ ∧
      (results [lost, written, absent]).length = 3 ∧
      (bookAll [lost]).failed = true ∧ (bookAll [lost, written, absent]).failed = true ∧
      bookAll [absent, lost, written] = bookAll [lost, written, absent] := by
  intro written lost absent
  obtain ⟨-, tells, earlier, -, orders⟩ := bookAll_laws [lost, written, absent]
  have marked : (bookAll [lost]).failed = true := rfl
  have perm : [lost, written, absent].Perm [absent, lost, written] := by decide
  exact ⟨rfl, tells.total.symm, marked, (earlier [lost] ⟨[written, absent], rfl⟩).2 marked,
    orders _ perm⟩

end RunTally

end Reindex
