/-!
# Tuning of an index and its writer

Two settings of the index are managed when they are given: the number of replicas and the refresh
interval. The other values say when a batch of operations is cut and how many may be under way.
-/

namespace Reindex

/-- How a run writes into its index (`IndexSettings`). -/
structure Tuning where
  /-- `none` leaves the number of replicas alone. -/
  replicas : Option Nat := some 1
  /-- `none` leaves the refresh interval alone. -/
  refreshInterval : Option String := some "30s"
  bulkActions : Nat := 1000
  bulkRequests : Nat := 2
  bulkSizeBytes : Option Nat := none
deriving DecidableEq, Repr, Inhabited

/-- When a batch is cut, and how many may be under way (`ChannelLimits`). With no concurrent batches
each one is finished before the next operation is taken. -/
structure BatchLimits where
  actions : Nat
  concurrent : Nat
  bytes : Option Nat
deriving DecidableEq, Repr

/-- The limits of a tuning. A batch holds at least one operation. -/
def Tuning.limits (t : Tuning) : BatchLimits :=
  ⟨max t.bulkActions 1, t.bulkRequests, t.bulkSizeBytes⟩

/-- A buffer of so many operations and bytes makes a batch. -/
def BatchLimits.reached (l : BatchLimits) (count bytes : Nat) : Bool :=
  decide (l.actions ≤ count) || (l.bytes.map fun limit => decide (limit ≤ bytes)).getD false

namespace BatchLimits

/-- The most bytes that one buffer can take. -/
def largestBuffer : Nat := UInt64.size / 2 - 1

/-- Bytes that an operation takes in a buffer. -/
def operationSlot : Nat := 56

/-- The most batches that can be admitted at once. -/
def mostConcurrent : Nat := (UInt64.size - 1) / 8

/-- Limits for which a buffer can be set aside and the admitted batches can be counted. -/
def Openable (l : BatchLimits) : Prop :=
  l.actions * operationSlot ≤ largestBuffer ∧ max l.concurrent 1 ≤ mostConcurrent

instance (l : BatchLimits) : Decidable l.Openable := inferInstanceAs (Decidable (_ ∧ _))

end BatchLimits

end Reindex
