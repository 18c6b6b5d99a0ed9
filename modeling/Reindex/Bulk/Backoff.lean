import Reindex.Binary64.Basic

/-!
# Waiting between attempts

The waits between attempts grow by a factor up to a limit, and there are only so many of them. They
are reckoned in binary64 and cut down to whole milliseconds when they are taken.

Main statement: `Delays.remaining_of_next?` says that each wait taken uses up one.
-/

namespace Reindex

structure BackoffPolicy where
  initialDelay : Nat := 50
  multiplier : Binary64 := Binary64.ofNat 2
  maxDelay : Nat := 5000
  maxRetries : Nat := 8
deriving DecidableEq, Repr, Inhabited

/-- The waits that are left. -/
structure Delays where
  next : Binary64
  multiplier : Binary64
  limit : Binary64
  remaining : Nat
deriving DecidableEq, Repr

/-- The most milliseconds that a wait can have. -/
def maxMilliseconds : Nat := UInt64.size - 1

/-- All waits of a policy. A factor below one counts as one, so that waits never shrink. -/
def BackoffPolicy.delays (p : BackoffPolicy) : Delays :=
  { next := .ofNat p.initialDelay
    multiplier := p.multiplier.max (.ofNat 1)
    limit := .ofNat p.maxDelay
    remaining := p.maxRetries }

namespace Delays

/-- The next wait in milliseconds, and those after it. -/
def next? (d : Delays) : Option (Nat × Delays) :=
  match d.remaining with
  | 0 => none
  | remaining + 1 =>
    some ((d.next.min d.limit).toNatWithin maxMilliseconds,
      { d with next := (d.next.mul d.multiplier).min d.limit, remaining })

/-- The first waits, at most so many. -/
def take (d : Delays) : Nat → List Nat
  | 0 => []
  | n + 1 =>
    match d.next? with
    | some (wait, rest) => wait :: rest.take n
    | none => []

theorem remaining_of_next? {d rest : Delays} {wait : Nat} (h : d.next? = some (wait, rest)) :
    d.remaining = rest.remaining + 1 := by
  simp only [next?] at h
  split at h
  · simp at h
  · rename_i n hn
    simp only [Option.some.injEq, Prod.mk.injEq] at h
    rw [← h.2, hn]

end Delays

end Reindex
