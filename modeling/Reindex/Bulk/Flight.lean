import Reindex.Bulk.Submission

/-!
# Batches under way

A flight is a batch that was let go: it is about to be sent, or its answer is awaited, at a time at
which it is due. `Flight.run` takes a flight that is due as far as it goes without waiting; it
lands, or it is due again later.

Main statement: `Flight.run_airborne` says that a flight that stays in the air has fewer steps
before it than it had, so that it lands in the end, and that it is due strictly later.
-/

namespace Reindex

/-- What a flight does next. -/
inductive FlightPhase (τ : Type) where
  | sending
  | awaiting (ticket : τ)

/-- A batch that was let go (`submit_batch`). -/
structure Flight (τ : Type) where
  batch : Nat
  submission : Submission
  phase : FlightPhase τ
  /-- When it goes on, in milliseconds. -/
  due : Nat

/-- How a flight ends. -/
inductive Landing where
  | reported (result : BatchResult)
  /-- It ended without an outcome. -/
  | died
deriving DecidableEq, Repr

/-- A flight that was run: still in the air, or landed. -/
inductive FlightStatus (τ : Type) where
  | airborne (flight : Flight τ)
  | landed (landing : Landing)

/-- The most milliseconds that are waited at once: thirty years. -/
def longestWait : Nat := 946080000000

/-- A flight's end in the ledger. One that died counts as lost. -/
def RunTally.settle (t : RunTally) : Landing → RunTally
  | .reported result => t.book result
  | .died => t.bookLoss

namespace Flight

variable {σ τ : Type}

/-- A bound on how often a flight may still be run. -/
def weight (f : Flight τ) : Nat :=
  2 * f.submission.delays.remaining + (match f.phase with | .sending => 2 | .awaiting _ => 1)

/-- What follows from the answer to a flight's attempt, at a time: it lands, or it is to be sent
again after a wait. -/
def hear (now : Nat) (f : Flight τ) (answer : BulkAnswer) : FlightStatus τ :=
  match f.submission.receive? answer with
  | none => .landed .died
  | some (.finished result) => .landed (.reported result)
  | some (.resend wait next) => .airborne { f with submission := next, phase := .sending, due := now + min wait longestWait }

/-- One step of a flight at a time: its attempt is sent, or the answer to it is heard. -/
def step (cluster : Cluster σ τ) (index : String) (now : Nat) (f : Flight τ) (s : σ) :
    FlightStatus τ × σ :=
  match f.phase with
  | .sending =>
    let begun := cluster.beginBulk now index f.submission.attempt s
    (.airborne { f with phase := .awaiting begun.1.2, due := now + min begun.1.1 longestWait },
      begun.2)
  | .awaiting ticket =>
    let ended := cluster.finishBulk ticket index f.submission.attempt s
    (f.hear now ended.1, ended.2)

theorem weight_of_hear {now : Nat} {f g : Flight τ} {answer : BulkAnswer}
    (h : f.hear now answer = .airborne g) :
    g.weight < f.weight := by
  simp only [hear] at h
  split at h
  · simp at h
  · simp at h
  · rename_i wait next hr
    simp only [FlightStatus.airborne.injEq] at h
    subst h
    have := Submission.remaining_of_receive hr
    simp only [weight]
    split <;> omega

/-- Each step leaves fewer steps. -/
theorem weight_of_step {cluster : Cluster σ τ} {index : String} {now : Nat} {f g : Flight τ} {s : σ}
    (h : (f.step cluster index now s).1 = .airborne g) : g.weight < f.weight := by
  cases hp : f.phase with
  | sending =>
    simp only [step, hp, FlightStatus.airborne.injEq] at h
    simp [← h, weight, hp]
  | awaiting ticket =>
    simp only [step, hp] at h
    exact weight_of_hear h

/-- Steps at a time until the flight waits for a later one or lands. -/
def run (cluster : Cluster σ τ) (index : String) (now : Nat) (f : Flight τ) (s : σ) :
    FlightStatus τ × σ :=
  match _h : f.step cluster index now s with
  | (.landed landing, s) => (.landed landing, s)
  | (.airborne g, s) => if now < g.due then (.airborne g, s) else run cluster index now g s
termination_by f.weight
decreasing_by exact weight_of_step (congrArg Prod.fst _h)

/-- What a run says of a flight that stays in the air: it has fewer steps left, and is due later. -/
theorem run_airborne {cluster : Cluster σ τ} {index : String} {now : Nat} {f g : Flight τ} {s : σ}
    (h : (f.run cluster index now s).1 = .airborne g) : g.weight < f.weight ∧ now < g.due := by
  fun_induction run cluster index now f s with
  | case1 f s landing s' hs => simp at h
  | case2 f s g' s' hs hdue =>
    simp only [FlightStatus.airborne.injEq] at h
    subst h
    exact ⟨weight_of_step (congrArg Prod.fst hs), hdue⟩
  | case3 f s g' s' hs hdue ih =>
    exact ⟨Nat.lt_trans (ih h).1 (weight_of_step (congrArg Prod.fst hs)), (ih h).2⟩

/-- Follows a flight to its landing: each of its steps is taken when it is due. -/
def land (cluster : Cluster σ τ) (index : String) (f : Flight τ) (s : σ) : Landing × σ :=
  match _h : f.step cluster index f.due s with
  | (.landed landing, s) => (landing, s)
  | (.airborne g, s) => land cluster index g s
termination_by f.weight
decreasing_by exact weight_of_step (congrArg Prod.fst _h)

end Flight

end Reindex
