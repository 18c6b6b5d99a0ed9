import Reindex.Proofs.Bulk.Conservation

/-!
# Settling accounts

A ledger that books ends one after another counts their results by what became of them, and is
marked when an end was lost or brought a result with an error. With every end about the operations
of its batch, the counters are counts of operations.

Main statement: `History.settles`, by which the ledger of a channel that took operations and is
empty again accounts for each of them: it was counted once, was lost with its batch, or was given
up.
-/

namespace Reindex

/-! ## Results and ends -/

namespace ItemResult

/-- A document was stored or merged. -/
def isWritten (r : ItemResult) : Bool := r.error.isNone && r.kind != .delete

/-- A document was deleted. -/
def isDeleted (r : ItemResult) : Bool := r.error.isNone && r.kind == .delete

/-- The operation failed. -/
def isFailed (r : ItemResult) : Bool := r.error.isSome

end ItemResult

namespace Landing

/-- The results that an end brings. -/
def items : Landing → List ItemResult
  | .reported (.completed items) => items
  | _ => []

/-- No result came. -/
def isLost : Landing → Bool
  | .reported (.completed _) => false
  | _ => true

/-- It was lost, or a result carries an error. -/
def fails (l : Landing) : Bool := l.isLost || l.items.any ItemResult.isFailed

end Landing

namespace RunCounters

/-- Results by what became of them. -/
def ofItems (items : List ItemResult) : RunCounters :=
  { succeeded := items.countP ItemResult.isWritten
    failed := items.countP ItemResult.isFailed
    deleted := items.countP ItemResult.isDeleted }

/-- Counters with others on top. -/
def plus (a b : RunCounters) : RunCounters :=
  ⟨a.succeeded + b.succeeded, a.failed + b.failed, a.deleted + b.deleted⟩

theorem plus_assoc (a b c : RunCounters) : (a.plus b).plus c = a.plus (b.plus c) := by
  simp [plus, Nat.add_assoc]

theorem plus_zero (a : RunCounters) : a.plus {} = a := rfl

theorem zero_plus (a : RunCounters) : plus {} a = a := by simp [plus]

theorem ofItems_append (xs ys : List ItemResult) :
    ofItems (xs ++ ys) = (ofItems xs).plus (ofItems ys) := by
  simp [ofItems, plus]

/-- Every result counts once. -/
theorem total_ofItems (items : List ItemResult) : (ofItems items).total = items.length := by
  induction items with
  | nil => rfl
  | cons r items ih =>
    obtain ⟨kind, id, status, error⟩ := r
    simp only [ofItems, total, List.countP_cons, List.length_cons] at ih ⊢
    cases error <;> cases kind <;>
      simp [ItemResult.isWritten, ItemResult.isFailed, ItemResult.isDeleted] <;> omega

end RunCounters

/-! ## The ledger -/

namespace RunTally

theorem counters_bookItem (t : RunTally) (r : ItemResult) :
    (t.bookItem r).counters = t.counters.plus (.ofItems [r]) := by
  obtain ⟨kind, id, status, error⟩ := r
  unfold bookItem
  cases error <;> cases kind <;> rfl

theorem counters_bookItems (t : RunTally) (items : List ItemResult) :
    (t.bookItems items).counters = t.counters.plus (.ofItems items) := by
  induction items generalizing t with
  | nil => rfl
  | cons r items ih =>
    show ((t.bookItem r).bookItems items).counters = _
    rw [ih, counters_bookItem, RunCounters.plus_assoc, ← RunCounters.ofItems_append]
    rfl

theorem counters_settle (t : RunTally) (l : Landing) :
    (t.settle l).counters = t.counters.plus (.ofItems l.items) := by
  rcases l with ⟨items | failure⟩ | _
  · exact counters_bookItems t items
  · exact (RunCounters.plus_zero t.counters).symm
  · exact (RunCounters.plus_zero t.counters).symm

theorem failed_settle (t : RunTally) (l : Landing) :
    (t.settle l).failed = (t.failed || l.fails) := by
  rcases l with ⟨items | failure⟩ | _
  · exact failed_bookItems t items
  · exact (Bool.or_true _).symm
  · exact (Bool.or_true _).symm

theorem counters_foldl_settle (ls : List Landing) (t : RunTally) :
    (ls.foldl settle t).counters = t.counters.plus (.ofItems (ls.flatMap Landing.items)) := by
  induction ls generalizing t with
  | nil => rfl
  | cons l ls ih =>
    rw [List.foldl_cons, ih, counters_settle, RunCounters.plus_assoc, ← RunCounters.ofItems_append,
      List.flatMap_cons]

theorem failed_foldl_settle (ls : List Landing) (t : RunTally) :
    (ls.foldl settle t).failed = (t.failed || ls.any Landing.fails) := by
  induction ls generalizing t with
  | nil => simp
  | cons l ls ih => rw [List.foldl_cons, ih, failed_settle, List.any_cons, Bool.or_assoc]

/-- Ends come to the same in any order. -/
theorem foldl_settle_perm {ls ks : List Landing} (h : ls.Perm ks) (t : RunTally) :
    ls.foldl settle t = ks.foldl settle t := by
  have items : (ls.flatMap Landing.items).Perm (ks.flatMap Landing.items) := h.flatMap_right _
  have counters : RunCounters.ofItems (ls.flatMap Landing.items) = .ofItems
    (ks.flatMap Landing.items) := by
    unfold RunCounters.ofItems
    rw [items.countP_eq, items.countP_eq, items.countP_eq]
  have same : (ls.foldl settle t).counters = (ks.foldl settle t).counters := by
    rw [counters_foldl_settle, counters_foldl_settle, counters]
  have marked : (ls.foldl settle t).failed = (ks.foldl settle t).failed := by
    rw [failed_foldl_settle, failed_foldl_settle, h.any_eq]
  cases hl : ls.foldl settle t
  cases hk : ks.foldl settle t
  simp_all

end RunTally

/-! ## Operations in the ledger -/

namespace History

/-- The operations of the batches that ended with results. -/
def counted (h : History) : List Operation :=
  h.landings.flatMap fun e => if e.2.isLost then [] else e.1

/-- The operations of the batches that ended without. -/
def lost (h : History) : List Operation :=
  h.landings.flatMap fun e => if e.2.isLost then e.1 else []

theorem ended_perm (h : History) : h.ended.Perm (h.counted ++ h.lost) := by
  refine List.perm_iff_count.2 fun op => ?_
  unfold ended counted lost
  rw [List.count_append]
  induction h.landings with
  | nil => rfl
  | cons e es ih =>
    simp only [List.flatMap_cons, List.count_append]
    split <;> simp <;> omega

/-- The results that came are about the operations whose batches ended with results. -/
theorem targets_counted {h : History} (hs : h.Sound) :
    ((h.landings.map Prod.snd).flatMap Landing.items).map ItemResult.target =
      h.counted.map Operation.target := by
  unfold counted
  have fits := hs.landings
  generalize h.landings = es at fits
  induction es with
  | nil => rfl
  | cons e es ih =>
    have tail := ih fun d hd => fits d (.tail _ hd)
    have head := fits e (.head _)
    obtain ⟨ops, landing⟩ := e
    simp only [List.map_cons, List.flatMap_cons, List.map_append] at tail ⊢
    rw [tail]
    congr 1
    rcases landing with ⟨items | failure⟩ | _
    · exact head
    · rfl
    · cases head

/-- A ledger that accounts for the operations of a history. -/
structure Settles (h : History) (t : RunTally) : Prop where
  /-- What was taken was counted, was lost with its batch, or was given up. -/
  conserved : h.taken.Perm (h.counted ++ h.lost ++ h.givenUp)
  /-- Each operation whose batch ended with results is counted once, by the result that came for
  it. -/
  results : (h.booked.flatMap Landing.items).map ItemResult.target = h.counted.map Operation.target
  counters : t.counters = .ofItems (h.booked.flatMap Landing.items)
  total : t.counters.total = h.counted.length
  /-- The run is marked by an end that was lost or brought an error, and by nothing else. -/
  failed : t.failed = true ↔ ∃ l ∈ h.booked, l.fails = true

/-- **A channel that is empty again has settled its accounts.** -/
theorem settles {h : History} {t : RunTally} (conserved : h.taken.Perm (h.ended ++ h.givenUp))
    (booked : h.landings.map Prod.snd = h.booked) (tally : t = h.booked.foldl RunTally.settle {})
    (hs : h.Sound) :
    h.Settles t := by
  have results := targets_counted hs
  rw [booked] at results
  have counters : t.counters = .ofItems (h.booked.flatMap Landing.items) := by
    rw [tally, RunTally.counters_foldl_settle, RunCounters.zero_plus]
  refine ⟨conserved.trans (h.ended_perm.append_right _), results, counters, ?_, ?_⟩
  · rw [counters, RunCounters.total_ofItems]
    simpa using congrArg List.length results
  · rw [tally, RunTally.failed_foldl_settle]
    simp

/-- A result without an error is about a deletion or about a document that was written. -/
theorem clean_counts {items : List ItemResult} {ops : List Operation}
    (targets : items.map ItemResult.target = ops.map Operation.target)
    (clean : ∀ r ∈ items, r.error = none) :
    RunCounters.ofItems items =
      { succeeded := ops.countP (·.kind != .delete), failed := 0,
        deleted := ops.countP (·.kind == .delete) } := by
  induction items generalizing ops with
  | nil =>
    cases ops with
    | nil => rfl
    | cons op ops => cases targets
  | cons r items ih =>
    cases ops with
    | nil => cases targets
    | cons op ops =>
      simp only [List.map_cons, List.cons.injEq] at targets
      have tail := ih targets.2 fun q hq => clean q (.tail _ hq)
      have kind : r.kind = op.kind := congrArg Prod.fst targets.1
      have none := clean r (.head _)
      rw [← List.singleton_append, RunCounters.ofItems_append, tail]
      simp only [RunCounters.plus, RunCounters.ofItems, ItemResult.isWritten, ItemResult.isFailed,
        ItemResult.isDeleted, none, kind, List.countP_cons, List.countP_nil]
      cases op.kind <;> simp <;> omega

/-- Under a ledger without failures no end that was booked failed. -/
theorem Settles.fails {h : History} {t : RunTally} (hs : h.Settles t) (clean : t.failed = false) :
    ∀ l ∈ h.booked, l.fails = false := by
  intro l hl
  refine Bool.eq_false_iff.2 fun hf => ?_
  rw [hs.failed.2 ⟨l, hl, hf⟩] at clean
  cases clean

theorem Settles.lost {h : History} {t : RunTally} (hs : h.Settles t)
    (booked : h.landings.map Prod.snd = h.booked) (clean : t.failed = false) : h.lost = [] := by
  unfold History.lost
  refine List.flatMap_eq_nil_iff.2 fun e he => ?_
  have none := hs.fails clean e.2 (booked ▸ List.mem_map_of_mem he)
  simp only [Landing.fails, Bool.or_eq_false_iff] at none
  simp [none.1]

/-- **A clean ledger and nothing given up:** every operation was carried out. -/
theorem Settles.clean {h : History} {t : RunTally} (hs : h.Settles t)
    (booked : h.landings.map Prod.snd = h.booked) (clean : t.failed = false)
    (drained : h.dropped = []) :
    t.counters = { succeeded := h.taken.countP (·.kind != .delete), failed := 0
                   deleted := h.taken.countP (·.kind == .delete) } := by
  have givenUp : h.givenUp = [] := by simp [History.givenUp, drained]
  have perm : h.taken.Perm h.counted := by simpa [hs.lost booked clean, givenUp] using hs.conserved
  have errors : ∀ r ∈ h.booked.flatMap Landing.items, r.error = .none := by
    intro r hr
    obtain ⟨l, hl, hr⟩ := List.mem_flatMap.1 hr
    have := hs.fails clean l hl
    simp only [Landing.fails, Bool.or_eq_false_iff, List.any_eq_false] at this
    simpa [ItemResult.isFailed] using this.2 r hr
  rw [hs.counters, clean_counts hs.results errors, perm.countP_eq, perm.countP_eq]

end History

end Reindex
