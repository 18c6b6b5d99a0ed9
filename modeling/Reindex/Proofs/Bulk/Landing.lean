import Reindex.Bulk.Flight

/-!
# Following a flight to its landing

A flight that is about to be sent lands after rounds: its attempt is sent, the answer to it is
heard, and the answer alone says whether there is another round. The bulk calls on the way can be
logged, which changes nothing.

Main statements: `Flight.land_round` is one round, `Flight.land_logged` says that the record does
not disturb.
-/

namespace Reindex

variable {σ τ : Type}

/-! ## Logged calls -/

/-- A bulk call: the operations that it carried and the answer to it. -/
structure BulkCall where
  ops : List Operation
  answer : BulkAnswer
deriving DecidableEq, Repr

/-- The state of a cluster with the bulk calls that it answered, oldest first. -/
structure Logged (σ : Type) where
  state : σ
  calls : List BulkCall := []

/-- A call that is no bulk call. -/
def Logged.pass {α : Type} (x : EStateM Failure σ α) : EStateM Failure (Logged σ) α := fun r =>
  match x r.state with
  | .ok a s => .ok a { r with state := s }
  | .error e s => .error e { r with state := s }

/-- A cluster that keeps a record of its bulk calls. It answers as it would without. -/
def Cluster.logged (c : Cluster σ τ) : Cluster (Logged σ) τ where
  indexExists index := Logged.pass (c.indexExists index)
  createIndex index settings mappings := Logged.pass (c.createIndex index settings mappings)
  deleteIndex index := Logged.pass (c.deleteIndex index)
  refreshIndex index := Logged.pass (c.refreshIndex index)
  waitForHealth least timeout := Logged.pass (c.waitForHealth least timeout)
  aliases lookup := Logged.pass (c.aliases lookup)
  updateAliases actions := Logged.pass (c.updateAliases actions)
  updateSettings index update := Logged.pass (c.updateSettings index update)
  beginBulk now index ops r :=
    let begun := c.beginBulk now index ops r.state
    (begun.1, { r with state := begun.2 })
  finishBulk ticket index ops r :=
    let ended := c.finishBulk ticket index ops r.state
    (ended.1, ⟨ended.2, r.calls ++ [⟨ops, ended.1⟩]⟩)
  getDocument index id := Logged.pass (c.getDocument index id)
  putDocument index id body := Logged.pass (c.putDocument index id body)

namespace Flight

theorem land_of_landed {cluster : Cluster σ τ} {index : String} {f : Flight τ} {s s' : σ}
    {landing : Landing} (h : f.step cluster index f.due s = (.landed landing, s')) :
    f.land cluster index s = (landing, s') := by
  rw [land]
  split <;> simp_all

theorem land_of_airborne {cluster : Cluster σ τ} {index : String} {f g : Flight τ} {s s' : σ}
    (h : f.step cluster index f.due s = (.airborne g, s')) :
    f.land cluster index s = g.land cluster index s' := by
  rw [land]
  split <;> simp_all

theorem step_logged (cluster : Cluster σ τ) (index : String) (now : Nat) (f : Flight τ)
    (r : Logged σ) :
    f.step cluster index now r.state =
      ((f.step cluster.logged index now r).1, (f.step cluster.logged index now r).2.state) := by
  unfold step
  cases f.phase <;> rfl

/-- The record changes nothing about a landing. -/
theorem land_logged (cluster : Cluster σ τ) (index : String) (f : Flight τ) (r : Logged σ) :
    f.land cluster index r.state = ((f.land cluster.logged index r).1,
      (f.land cluster.logged index r).2.state) := by
  fun_induction land cluster.logged index f r with
  | case1 f r landing r' hs =>
    have same := step_logged cluster index f.due f r
    rw [hs] at same
    exact land_of_landed same
  | case2 f r g r' hs ih =>
    have same := step_logged cluster index f.due f r
    rw [hs] at same
    exact (land_of_airborne same).trans ih

/-- One round of a flight: its attempt is sent and the answer to it is heard. -/
theorem land_round {cluster : Cluster σ τ} {index : String} {f : Flight τ} {s s' : σ}
    {answer : BulkAnswer} (hp : f.phase = .sending)
    (hb : cluster.bulk f.due index f.submission.attempt s = (answer, s')) :
    match f.submission.receive? answer with
    | none => f.land cluster index s = (.died, s')
    | some (.finished result) => f.land cluster index s = (.reported result, s')
    | some (.resend _ next) =>
      ∃ due, f.land cluster index s = ({ f with submission := next, due } : Flight τ).land cluster
        index s' := by
  let begun := cluster.beginBulk f.due index f.submission.attempt s
  let g : Flight τ :=
    { f with phase := .awaiting begun.1.2, due := f.due + min begun.1.1 longestWait }
  have sent : f.land cluster index s = g.land cluster index begun.2 :=
    land_of_airborne (by simp only [step, hp]; rfl)
  have ended : cluster.finishBulk begun.1.2 index f.submission.attempt begun.2 = (answer, s') := hb
  have heard : g.step cluster index g.due begun.2 = (g.hear g.due answer, s') := by
    show (g.hear g.due (cluster.finishBulk _ _ _ _).1, (cluster.finishBulk _ _ _ _).2) = _
    rw [show g.submission = f.submission from rfl, ended]
  rw [sent]
  unfold hear at heard
  rw [show g.submission = f.submission from rfl] at heard
  cases hr : f.submission.receive? answer with
  | none =>
    rw [hr] at heard
    exact land_of_landed heard
  | some v =>
    rw [hr] at heard
    cases v with
    | finished result => exact land_of_landed heard
    | resend wait next => exact ⟨_, by rw [land_of_airborne heard, ← hp]⟩

/-- What is in the air after a step is due no earlier. -/
theorem due_of_step {cluster : Cluster σ τ} {index : String} {now : Nat} {f g : Flight τ} {s s' : σ}
    (h : f.step cluster index now s = (.airborne g, s')) : now ≤ g.due := by
  unfold step at h
  cases hp : f.phase with
  | sending =>
    rw [hp] at h
    cases h
    exact Nat.le_add_right ..
  | awaiting ticket =>
    rw [hp] at h
    obtain ⟨heard, -⟩ := Prod.mk.inj h
    unfold hear at heard
    split at heard <;> cases heard
    exact Nat.le_add_right ..

theorem run_of_landed {cluster : Cluster σ τ} {index : String} {now : Nat} {f : Flight τ} {s s' : σ}
    {landing : Landing} (h : f.step cluster index now s = (.landed landing, s')) :
    f.run cluster index now s = (.landed landing, s') := by
  rw [run]
  split <;> simp_all

theorem run_of_later {cluster : Cluster σ τ} {index : String} {now : Nat} {f g : Flight τ}
    {s s' : σ} (h : f.step cluster index now s = (.airborne g, s')) (later : now < g.due) :
    f.run cluster index now s = (.airborne g, s') := by
  rw [run]
  split
  · simp_all
  · rename_i h'
    cases h.symm.trans h'
    rw [if_pos later]

theorem run_of_airborne {cluster : Cluster σ τ} {index : String} {now : Nat} {f g : Flight τ}
    {s s' : σ} (h : f.step cluster index now s = (.airborne g, s')) (due : g.due ≤ now) :
    f.run cluster index now s = g.run cluster index now s' := by
  rw [run]
  split
  · simp_all
  · rename_i h'
    cases h.symm.trans h'
    rw [if_neg (by omega)]

/-- A run at the time at which a flight is due is the beginning of its way to the landing. -/
theorem land_of_run (cluster : Cluster σ τ) (index : String) {now : Nat} {f : Flight τ} (s : σ)
    (hd : f.due = now) :
    f.land cluster index s =
      match f.run cluster index now s with
      | (.landed landing, s') => (landing, s')
      | (.airborne g, s') => g.land cluster index s' := by
  fun_induction run cluster index now f s with
  | case1 f s landing s' hs =>
    subst hd
    exact land_of_landed hs
  | case2 f s g s' hs later =>
    subst hd
    exact land_of_airborne hs
  | case3 f s g s' hs later ih =>
    have due := due_of_step hs
    subst hd
    exact (land_of_airborne hs).trans (ih (by omega))

end Flight

/-- A cluster whose bulk calls do not depend on when they are sent. -/
def Cluster.Timeless (cluster : Cluster σ τ) : Prop :=
  ∀ now later index ops s, cluster.bulk now index ops s = cluster.bulk later index ops s

/-- There it does not matter when a batch is let go, nor what number it has. -/
theorem Flight.land_timeless {cluster : Cluster σ τ} (ht : cluster.Timeless) (index : String)
    {f g : Flight τ} (s : σ) (hf : f.phase = .sending) (hg : g.phase = .sending)
    (same : f.submission = g.submission) :
    f.land cluster index s = g.land cluster index s := by
  induction hr : f.submission.delays.remaining using Nat.strongRecOn generalizing f g s with
  | ind remaining ih =>
    cases hb : cluster.bulk f.due index f.submission.attempt s with
    | mk answer s' =>
      have here := land_round hf hb
      have there := land_round hg (same ▸ ht .. ▸ hb)
      rw [← same] at there
      cases hv : f.submission.receive? answer with
      | none =>
        rw [hv] at here there
        exact here.trans there.symm
      | some v =>
        rw [hv] at here there
        cases v with
        | finished result => exact here.trans there.symm
        | resend wait next =>
          obtain ⟨due, here⟩ := here
          obtain ⟨due', there⟩ := there
          have fewer := Submission.remaining_of_receive hv
          rw [here, there]
          exact ih next.delays.remaining (by omega) s' hf hg rfl rfl

end Reindex
