import Reindex.Bulk.Backoff
import Reindex.Bulk.Ledger

/-!
# Submitting a batch

A batch is sent again as long as that may help and waits are left. A failure of the whole call that
is worth another attempt sends again what is open; results that were pushed back send those
operations again on their own. When the waits are used up, what is still pushed back has failed, and
a failure of the call is the end of the batch.

The state of a batch is one slot for each operation, with its latest answer. An operation is open
while it has no answer or was pushed back, so that the next attempt is read off the slots.

Main statement: `Submission.remaining_of_receive` says that every further attempt uses up a wait.
-/

namespace Reindex

/-- An operation of a batch and the latest answer to it. -/
structure Slot where
  op : Operation
  answer : Option ItemResult
deriving DecidableEq, Repr

namespace Slot

/-- The operation has no answer yet, or was pushed back. -/
def isOpen (s : Slot) : Bool := (s.answer.map ItemResult.isRejected).getD true

/-- The slots with results for the open ones, in order. -/
def fill : List Slot → List ItemResult → List Slot
  | [], _ => []
  | s :: slots, results =>
    if s.isOpen then
      match results with
      | [] => s :: slots
      | r :: results => { s with answer := some r } :: fill slots results
    else s :: fill slots results

/-- The slots with every open one refused for the same reason. -/
def refuseOpen (reason : String) (slots : List Slot) : List Slot :=
  slots.map fun s => if s.isOpen then { s with answer := some (.refused s.op 0 reason) } else s

/-- The results that there are. -/
def results (slots : List Slot) : List ItemResult := slots.filterMap (·.answer)

end Slot

/-- A result that was pushed back for good has failed. -/
def ItemResult.giveUp (r : ItemResult) : ItemResult :=
  if r.isRejected && r.error.isNone then
    { r with error := some "rejected with 429 and out of retries" } else r

/-- A batch on its way: its operations with their answers, and the waits left (`submit_batch`). -/
structure Submission where
  slots : List Slot
  delays : Delays
deriving DecidableEq, Repr

namespace Submission

/-- A batch that was not sent yet. -/
def ofOperations (ops : List Operation) (backoff : BackoffPolicy) : Submission :=
  ⟨ops.map (⟨·, none⟩), backoff.delays⟩

/-- The operations that the next attempt sends. -/
def attempt (s : Submission) : List Operation := (s.slots.filter Slot.isOpen).map (·.op)

/-- What follows from an answer. -/
inductive Verdict where
  /-- The batch goes out again after a wait of so many milliseconds. -/
  | resend (wait : Nat) (next : Submission)
  | finished (result : BatchResult)
deriving DecidableEq, Repr

/-- The end of a batch by a failure of the whole call: a batch of which nothing is settled is lost,
otherwise the open operations are refused (`give_up`). -/
def abandon (s : Submission) (failure : BulkFailure) : BatchResult :=
  if s.slots.all Slot.isOpen then .transportFailed failure
  else .completed (Slot.results (Slot.refuseOpen failure.message s.slots))

/-- An answer with another number of results than there were operations. -/
def misaligned (results ops : Nat) : BulkFailure :=
  .lasting ("backend answered " ++ toString results ++ " items for " ++ toString ops ++
    " operations")

/-- What follows from results for all operations of the attempt. -/
def receiveItems (s : Submission) (items : List ItemResult) : Verdict :=
  let slots := Slot.fill s.slots items
  if slots.all (!·.isOpen) then .finished (.completed (Slot.results slots))
  else
    match s.delays.next? with
    | some (wait, delays) => .resend wait ⟨slots, delays⟩
    | none => .finished (.completed ((Slot.results slots).map ItemResult.giveUp))

/-- What follows from a failure of the whole call. -/
def receiveFailure (s : Submission) (failure : BulkFailure) : Verdict :=
  if failure.retryable then
    match s.delays.next? with
    | some (wait, delays) => .resend wait { s with delays }
    | none => .finished (s.abandon failure)
  else .finished (s.abandon failure)

/-- What follows from an answer; none if the call died. -/
def receive? (s : Submission) : BulkAnswer → Option Verdict
  | .died => none
  | .failed failure => some (s.receiveFailure failure)
  | .items items =>
    if items.length = s.attempt.length then some (s.receiveItems items)
    else some (.finished (.transportFailed (misaligned items.length s.attempt.length)))

theorem remaining_of_receive {s next : Submission} {answer : BulkAnswer} {wait : Nat}
    (h : s.receive? answer = some (.resend wait next)) :
    s.delays.remaining = next.delays.remaining + 1 := by
  cases answer with
  | died => simp [receive?] at h
  | failed failure =>
    simp only [receive?, receiveFailure, Option.some.injEq] at h
    split at h
    · split at h
      · rename_i d hd
        cases h
        exact Delays.remaining_of_next? hd
      · simp at h
    · simp at h
  | items items =>
    simp only [receive?] at h
    split at h
    · simp only [receiveItems, Option.some.injEq] at h
      split at h
      · simp at h
      · split at h
        · rename_i d hd
          cases h
          exact Delays.remaining_of_next? hd
        · simp at h
    · simp at h

end Submission

end Reindex
