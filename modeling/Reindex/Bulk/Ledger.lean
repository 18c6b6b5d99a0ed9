import Reindex.Cluster.Basic

/-!
# The ledger of a run

What became of the batches, in counters: each result of an operation counts once, and a batch that
got no answer marks the run as failed without counting anything.

Main statements: `RunTally.total_bookItems` says that every item is counted once, and
`RunTally.failed_bookItems` when items mark the run.
-/

namespace Reindex

/-- How a batch ended. -/
inductive BatchResult where
  /-- One result for each operation, in order. -/
  | completed (items : List ItemResult)
  /-- No operation was ever answered. -/
  | transportFailed (failure : BulkFailure)
deriving DecidableEq, Repr

structure RunCounters where
  succeeded : Nat := 0
  failed : Nat := 0
  deleted : Nat := 0
deriving DecidableEq, Repr, Inhabited

/-- The counters of a run, and whether anything in it failed. -/
structure RunTally where
  counters : RunCounters := {}
  failed : Bool := false
deriving DecidableEq, Repr, Inhabited

namespace RunCounters

/-- The operations that were counted. -/
def total (c : RunCounters) : Nat := c.succeeded + c.failed + c.deleted

end RunCounters

namespace RunTally

/-- One result in the counters. -/
def bookItem (t : RunTally) (item : ItemResult) : RunTally :=
  match item.error, item.kind with
  | some _, _ => { counters := { t.counters with failed := t.counters.failed + 1 }, failed := true }
  | none, .delete => { t with counters := { t.counters with deleted := t.counters.deleted + 1 } }
  | none, _ => { t with counters := { t.counters with succeeded := t.counters.succeeded + 1 } }

/-- The results of a batch in the counters (`record_items`). -/
def bookItems (t : RunTally) (items : List ItemResult) : RunTally := items.foldl bookItem t

/-- A batch was lost: nothing is counted (`record_transport_failure`). -/
def bookLoss (t : RunTally) : RunTally := { t with failed := true }

/-- The end of a batch in the ledger (`after_batch`). -/
def book (t : RunTally) : BatchResult → RunTally
  | .completed items => t.bookItems items
  | .transportFailed _ => t.bookLoss

theorem total_bookItem (t : RunTally) (item : ItemResult) :
    (t.bookItem item).counters.total = t.counters.total + 1 := by
  simp only [bookItem, RunCounters.total]
  split <;> simp <;> omega

theorem total_bookItems (t : RunTally) (items : List ItemResult) :
    (t.bookItems items).counters.total = t.counters.total + items.length := by
  induction items generalizing t with
  | nil => simp [bookItems]
  | cons item items ih =>
    have h := ih (t.bookItem item)
    simp only [bookItems, List.foldl_cons, List.length_cons] at h ⊢
    rw [h, total_bookItem]
    omega

theorem failed_bookItem (t : RunTally) (item : ItemResult) :
    (t.bookItem item).failed = (t.failed || item.error.isSome) := by
  simp only [bookItem]
  split <;> simp_all

theorem failed_bookItems (t : RunTally) (items : List ItemResult) :
    (t.bookItems items).failed = (t.failed || items.any (·.error.isSome)) := by
  induction items generalizing t with
  | nil => simp [bookItems]
  | cons item items ih =>
    have h := ih (t.bookItem item)
    simp only [bookItems, List.foldl_cons, List.any_cons] at h ⊢
    rw [h, failed_bookItem, Bool.or_assoc]

end RunTally

end Reindex
