import Mathlib.Control.Monad.Basic
import Reindex.Proofs.Cluster.Traced
import Reindex.Proofs.Lifecycle.Cutover

/-!
# Decisions one after another

A lifecycle may be asked for its decision several times, and others may change the cluster
meanwhile. Once it has decided it refuses every further call and asks the cluster nothing; a call
that fails decides nothing, so that the next one finds the lifecycle as the first one did and goes
by the alias table that there is then.

`Held.decide` is the decision with the state of the lifecycle in the place where it changes. It
enters the new state last, so no failure comes behind that; `Held.decide_eq` says that it is
`Lifecycle.switchIndex`.

Main statement: `Held.decided_once`. It rests on `Held.turned`, which tells what one call can come
to.
-/

namespace Reindex

variable {σ τ α : Type}

/-- The state that an outcome is final in. -/
def SwitchOutcome.final? : SwitchOutcome → Option LifecycleState
  | .switched _ _ _ _ | .alreadyCurrent => some .switched
  | .skipped _ => some .skipped
  | .notRequested | .notApplicable => none

/-- A failure of the cluster, or an alias on several indices. -/
def Error.isPassing : Error → Bool
  | .cluster _ | .aliasAmbiguity _ _ => true
  | _ => false

/-- A lifecycle with the state of its cluster. -/
structure Held (σ : Type) where
  lifecycle : Lifecycle
  cluster : σ

namespace Held

open Lifecycle (aliasTarget planSwitch skipReason? switchIndex publish)

/-! ## One decision -/

/-- A step against the cluster. -/
def ask (x : EStateM Error σ α) : EStateM Error (Held σ) α := fun h =>
  match x h.cluster with
  | .ok a s => .ok a { h with cluster := s }
  | .error e s => .error e { h with cluster := s }

/-- The lifecycle goes on to a state. -/
def enter (state : LifecycleState) : EStateM Error (Held σ) Unit :=
  modify fun h => { h with lifecycle := { h.lifecycle with state } }

/-- The decision, with the state of the lifecycle entered where it is final. -/
def decide (cluster : Cluster σ τ) (tally : RunTally) : EStateM Error (Held σ) SwitchOutcome := do
  let l := (← get).lifecycle
  if l.state ≠ .ensured then throw (.lifecycleFinished l.state)
  match l.identity.aliasName with
  | none => return .notApplicable
  | some aliasName =>
    match skipReason? tally with
    | some reason =>
      enter .skipped
      return .skipped reason
    | none =>
      let old ← ask (aliasTarget cluster aliasName)
      if old = some l.identity.index then
        enter .switched
        return .alreadyCurrent
      let plan ← ask (planSwitch cluster aliasName old l.identity.index)
      ask (call (cluster.updateAliases plan.actions))
      enter .switched
      return .switched aliasName plan.old l.identity.index plan.aliases.keys

theorem ask_of_ok {x : EStateM Error σ α} {h : Held σ} {a : α} {s : σ}
    (hx : x h.cluster = .ok a s) :
    ask x h = .ok a { h with cluster := s } := by
  unfold ask
  rw [hx]

theorem ask_of_error {x : EStateM Error σ α} {h : Held σ} {e : Error} {s : σ}
    (hx : x h.cluster = .error e s) :
    ask x h = .error e { h with cluster := s } := by
  unfold ask
  rw [hx]

variable {cluster : Cluster σ τ} {h : Held σ} {tally : RunTally}

theorem decide_of_finished (finished : h.lifecycle.state ≠ .ensured) :
    decide cluster tally h = .error (.lifecycleFinished h.lifecycle.state) h := by
  unfold decide
  rw [bind_get, if_pos finished]
  rfl

/-- **The decision is** the one of the lifecycle. Where it is taken the new lifecycle is kept, and
where it fails the old one. -/
theorem decide_eq (cluster : Cluster σ τ) (tally : RunTally) (h : Held σ) :
    decide cluster tally h = match h.lifecycle.switchIndex cluster tally h.cluster with
      | .ok decided s => .ok decided.1 ⟨decided.2, s⟩
      | .error e s => .error e ⟨h.lifecycle, s⟩ := by
  by_cases ensured : h.lifecycle.state = .ensured
  · unfold decide
    rw [bind_get, if_neg (not_not_intro ensured)]
    cases named : h.lifecycle.identity.aliasName with
    | none =>
      rw [Lifecycle.switchIndex_of_direct cluster ensured named]
      rfl
    | some aliasName =>
      cases reasoned : skipReason? tally with
      | some reason =>
        rw [Lifecycle.switchIndex_of_skipped cluster ensured named reasoned]
        rfl
      | none =>
        rw [Lifecycle.switchIndex_of_clean cluster ensured named
          (Lifecycle.skipReason?_eq_none.1 reasoned)]
        cases looked : aliasTarget cluster aliasName h.cluster with
        | error e s =>
          rw [bind_of_error looked]
          exact bind_of_error (ask_of_error looked) _
        | ok old s =>
          rw [bind_of_ok looked]
          refine (bind_of_ok (ask_of_ok looked) _).trans ?_
          by_cases current : old = some h.lifecycle.identity.index
          · rw [if_pos current, if_pos current]
            rfl
          · rw [if_neg current, if_neg current]
            unfold publish
            cases planned : planSwitch cluster aliasName old h.lifecycle.identity.index s with
            | error e t =>
              rw [bind_of_error planned]
              exact bind_of_error (ask_of_error (h := { h with cluster := s }) planned) _
            | ok plan t =>
              rw [bind_of_ok planned]
              refine (bind_of_ok (ask_of_ok (h := { h with cluster := s }) planned) _).trans ?_
              cases updated : call (cluster.updateAliases plan.actions) t with
              | error e u =>
                rw [bind_of_error updated]
                exact bind_of_error (ask_of_error (h := { h with cluster := t }) updated) _
              | ok a u =>
                rw [bind_of_ok updated]
                exact bind_of_ok (ask_of_ok (h := { h with cluster := t }) updated) _
  · rw [decide_of_finished ensured, Lifecycle.switchIndex_of_finished cluster ensured]

/-! ## What one call comes to -/

theorem passing_of_call {x : EStateM Failure σ α} {s t : σ} {e : Error}
    (failed : call x s = .error e t) :
    e.isPassing = true := by
  obtain ⟨failure, rfl⟩ := call_eq_error failed
  rfl

theorem passing_of_aliasTarget {aliasName : String} {s t : σ} {e : Error}
    (failed : aliasTarget cluster aliasName s = .error e t) : e.isPassing = true := by
  unfold aliasTarget at failed
  rcases bind_eq_error failed with failed | ⟨table, u, -, failed⟩
  · exact passing_of_call failed
  · rcases keys : table.keys with _ | ⟨only, _ | ⟨next, rest⟩⟩
    all_goals
      rw [keys] at failed
      cases failed
    rfl

theorem passing_of_planSwitch {aliasName new : String} {old : Option String} {s t : σ} {e : Error}
    (failed : planSwitch cluster aliasName old new s = .error e t) : e.isPassing = true := by
  unfold planSwitch at failed
  cases old with
  | none => cases failed
  | some old =>
    rcases bind_eq_error failed with failed | ⟨found, u, -, failed⟩
    · exact passing_of_call failed
    · split at failed
      · rcases bind_eq_error failed with failed | ⟨attached, v, -, failed⟩
        · exact passing_of_call failed
        · cases failed
      · cases failed

theorem passing_of_publish {l : Lifecycle} {aliasName : String} {old : Option String} {s t : σ}
    {e : Error} (failed : publish cluster l aliasName old s = .error e t) : e.isPassing = true := by
  unfold publish at failed
  rcases bind_eq_error failed with failed | ⟨plan, u, -, failed⟩
  · exact passing_of_planSwitch failed
  · rcases bind_eq_error failed with failed | ⟨a, v, -, failed⟩
    · exact passing_of_call failed
    · cases failed

theorem final_of_publish {l : Lifecycle} {aliasName : String} {old : Option String} {s t : σ}
    {decided : SwitchOutcome × Lifecycle}
    (published : publish cluster l aliasName old s = .ok decided t) :
    decided.1.final? = some .switched ∧ decided.2 = { l with state := .switched } := by
  unfold publish at published
  obtain ⟨plan, u, -, published⟩ := bind_eq_ok published
  obtain ⟨a, v, -, published⟩ := bind_eq_ok published
  cases published
  exact ⟨rfl, rfl⟩

theorem closed_of_final {outcome : SwitchOutcome} {state : LifecycleState}
    (final : outcome.final? = some state) :
    state ≠ .ensured := by
  rintro rfl
  cases outcome <;> cases final

/-- What a call for the decision comes to. -/
inductive Turned (h : Held σ) : EStateM.Result Error (Held σ) SwitchOutcome → Prop
  /-- It was decided before. -/
  | finished (closed : h.lifecycle.state ≠ .ensured) :
      Turned h (.error (.lifecycleFinished h.lifecycle.state) h)
  | direct (ensured : h.lifecycle.state = .ensured)
      (unnamed : h.lifecycle.identity.aliasName = none) :
      Turned h (.ok .notApplicable h)
  /-- A call to the cluster failed, or the alias is on several indices. -/
  | failed {e : Error} (ensured : h.lifecycle.state = .ensured)
      (named : h.lifecycle.identity.aliasName ≠ none)
      (passing : e.isPassing = true) (s : σ) : Turned h (.error e { h with cluster := s })
  | settled {outcome : SwitchOutcome} {state : LifecycleState}
      (named : h.lifecycle.identity.aliasName ≠ none) (final : outcome.final? = some state)
        (s : σ) : Turned h (.ok outcome ⟨{ h.lifecycle with state }, s⟩)

/-- **One call** is finished before it begins, says that there is no alias, fails, or settles the
matter. -/
theorem turned (cluster : Cluster σ τ) (tally : RunTally) (h : Held σ) :
    Turned h (decide cluster tally h) := by
  by_cases ensured : h.lifecycle.state = .ensured
  · rw [decide_eq]
    cases alias? : h.lifecycle.identity.aliasName with
    | none =>
      rw [Lifecycle.switchIndex_of_direct cluster ensured alias?]
      exact .direct ensured alias?
    | some aliasName =>
      have named : h.lifecycle.identity.aliasName ≠ none := by simp [alias?]
      cases reasoned : skipReason? tally with
      | some reason =>
        rw [Lifecycle.switchIndex_of_skipped cluster ensured alias? reasoned]
        exact .settled named rfl h.cluster
      | none =>
        rw [Lifecycle.switchIndex_of_clean cluster ensured alias?
          (Lifecycle.skipReason?_eq_none.1 reasoned)]
        cases looked : aliasTarget cluster aliasName h.cluster with
        | error e s =>
          rw [bind_of_error looked]
          exact .failed ensured named (passing_of_aliasTarget looked) s
        | ok old s =>
          rw [bind_of_ok looked]
          by_cases current : old = some h.lifecycle.identity.index
          · rw [if_pos current]
            exact .settled named rfl s
          · rw [if_neg current]
            cases published : publish cluster h.lifecycle aliasName old s with
            | error e t => exact .failed ensured named (passing_of_publish published) t
            | ok decided t =>
              obtain ⟨final, left⟩ := final_of_publish published
              dsimp only
              rw [left]
              exact .settled named final t
  · rw [decide_of_finished ensured]
    exact .finished ensured

/-! ## Calls one after another -/

/-- A call for the decision, behind what others did to the cluster. -/
structure Turn (σ : Type) where
  meanwhile : σ → σ := id
  tally : RunTally

/-- What the call finds. -/
def Turn.found (turn : Turn σ) (h : Held σ) : Held σ :=
  { h with cluster := turn.meanwhile h.cluster }

/-- A call for the decision as it went: what it found, its tally, and what it said and left. -/
structure Taken (σ : Type) where
  found : Held σ
  tally : RunTally
  result : EStateM.Result Error (Held σ) SwitchOutcome

/-- Calls for the decision one after another. -/
def decideAll (cluster : Cluster σ τ) : List (Turn σ) → Held σ → List (Taken σ)
  | [], _ => []
  | turn :: turns, h =>
    let result := decide cluster turn.tally (turn.found h)
    ⟨turn.found h, turn.tally, result⟩ :: decideAll cluster turns (stateAfter result)

variable {turns : List (Turn σ)} {taken : Taken σ}

theorem result_of_mem (mem : taken ∈ decideAll cluster turns h) :
    taken.result = decide cluster taken.tally taken.found := by
  induction turns generalizing h with
  | nil => cases mem
  | cons turn turns ih =>
    cases mem with
    | head => rfl
    | tail _ mem => exact ih mem

/-- A lifecycle that was decided on stays what it is. -/
theorem found_of_finished (finished : h.lifecycle.state ≠ .ensured)
    (mem : taken ∈ decideAll cluster turns h) :
    taken.found.lifecycle = h.lifecycle := by
  induction turns generalizing h with
  | nil => cases mem
  | cons turn turns ih =>
    cases mem with
    | head => rfl
    | tail _ mem =>
      have refused : decide cluster turn.tally (turn.found h) = _ := decide_of_finished finished
      rw [refused] at mem
      exact ih (h := turn.found h) finished mem

/-- A lifecycle that is found open is the one that there was in the beginning. -/
theorem found_of_ensured (mem : taken ∈ decideAll cluster turns h)
    (ensured : taken.found.lifecycle.state = .ensured) :
    taken.found.lifecycle = h.lifecycle := by
  induction turns generalizing h with
  | nil => cases mem
  | cons turn turns ih =>
    cases mem with
    | head => rfl
    | tail _ mem =>
      have one := turned cluster turn.tally (turn.found h)
      generalize decide cluster turn.tally (turn.found h) = result at one mem
      cases one with
      | finished _ => exact ih (h := turn.found h) mem
      | direct _ _ => exact ih (h := turn.found h) mem
      | failed _ _ _ s => exact ih (h := { turn.found h with cluster := s }) mem
      | settled _ final s =>
        have closed := closed_of_final final
        rw [found_of_finished closed mem] at ensured
        exact absurd ensured closed

/-- As long as no call was final, the lifecycle is found as it was in the beginning. -/
theorem found_of_open {before after : List (Taken σ)}
    (split : decideAll cluster turns h = before ++ taken :: after)
    (unsettled : ∀ earlier ∈ before, ∀ outcome v, earlier.result = .ok outcome v →
      outcome.final? = none) :
    taken.found.lifecycle = h.lifecycle := by
  induction turns generalizing h before with
  | nil => simp [decideAll] at split
  | cons turn turns ih =>
    cases before with
    | nil =>
      cases split
      rfl
    | cons first before =>
      obtain ⟨rfl, rest⟩ := List.cons.inj split
      have one := turned cluster turn.tally (turn.found h)
      have undecided := unsettled _ (.head _)
      dsimp only at undecided
      generalize decide cluster turn.tally (turn.found h) = result at one rest undecided
      have others := fun earlier mem => unsettled earlier (.tail _ mem)
      cases one with
      | finished _ => exact ih (h := turn.found h) rest others
      | direct _ _ => exact ih (h := turn.found h) rest others
      | failed _ _ _ s => exact ih (h := { turn.found h with cluster := s }) rest others
      | settled _ final _ => cases final.symm.trans (undecided _ _ rfl)

/-- What calls for a decision come to that was open in the beginning. -/
structure OneShot (h : Held σ) (all : List (Taken σ)) : Prop where
  /-- Behind a final outcome every call is refused for the state that it is final in. It changes
  nothing, and where the calls are traced it adds none. -/
  final : all.Pairwise fun earlier later => ∀ outcome v state, earlier.result = .ok outcome v →
    outcome.final? = some state → later.result = .error (.lifecycleFinished state) later.found
  /-- Until then every call finds the lifecycle as the first one did. -/
  afresh : ∀ before taken after, all = before ++ taken :: after →
    (∀ earlier ∈ before, ∀ outcome v, earlier.result = .ok outcome v → outcome.final? = none) →
      taken.found.lifecycle = h.lifecycle
  /-- A call that fails leaves the decision open. -/
  failed : ∀ taken ∈ all, ∀ e v, taken.result = .error e v → e.isPassing = true →
    v.lifecycle = h.lifecycle ∧ v.lifecycle.state = .ensured
  /-- No other error is given but to calls that come too late. -/
  refused : ∀ taken ∈ all, ∀ e v, taken.result = .error e v → e.isPassing = false →
    e = .lifecycleFinished taken.found.lifecycle.state ∧ v = taken.found
  /-- Without an alias every call says so, and asks nothing. -/
  unnamed : h.lifecycle.identity.aliasName = none →
    ∀ taken ∈ all, taken.result = .ok .notApplicable taken.found

theorem pairwise_final (turns : List (Turn σ)) (h : Held σ) :
    (decideAll cluster turns h).Pairwise fun earlier later =>
      ∀ outcome v state, earlier.result = .ok outcome v →
      outcome.final? = some state →
      later.result = .error (.lifecycleFinished state) later.found := by
  induction turns generalizing h with
  | nil => exact .nil
  | cons turn turns ih =>
    refine List.pairwise_cons.2 ⟨fun later mem outcome v state said final => ?_, ih _⟩
    have one := turned cluster turn.tally (turn.found h)
    dsimp only at said
    rw [said] at one mem
    cases one with
    | direct _ _ => cases final
    | settled _ final' s =>
      cases final.symm.trans final'
      have closed := closed_of_final final
      have left := found_of_finished closed mem
      rw [result_of_mem mem, decide_of_finished (by rw [left]; exact closed), left]
      rfl

theorem result_of_unnamed (ensured : h.lifecycle.state = .ensured)
    (unnamed : h.lifecycle.identity.aliasName = none) (mem : taken ∈ decideAll cluster turns h) :
    taken.result = .ok .notApplicable taken.found := by
  induction turns generalizing h with
  | nil => cases mem
  | cons turn turns ih =>
    have direct : decide cluster turn.tally (turn.found h) = .ok .notApplicable (turn.found h) := by
      rw [decide_eq, Lifecycle.switchIndex_of_direct cluster (l := (turn.found h).lifecycle) ensured
        unnamed]
    cases mem with
    | head => exact direct
    | tail _ mem =>
      rw [direct] at mem
      exact ih (h := turn.found h) ensured unnamed mem

/-- **Decided once.** -/
theorem oneShot_decideAll (ensured : h.lifecycle.state = .ensured) (turns : List (Turn σ)) :
    OneShot h (decideAll cluster turns h) where
  final := pairwise_final turns h
  afresh before taken after split unsettled := found_of_open split unsettled
  failed taken mem e v said passing := by
    have one := turned cluster taken.tally taken.found
    rw [← result_of_mem mem, said] at one
    cases one with
    | finished closed => cases passing
    | failed open? _ _ s => exact ⟨found_of_ensured mem open?, open?⟩
  refused taken mem e v said refused := by
    have one := turned cluster taken.tally taken.found
    rw [← result_of_mem mem, said] at one
    cases one with
    | finished closed => exact ⟨rfl, rfl⟩
    | failed _ _ passing s => cases passing.symm.trans refused
  unnamed none taken mem := result_of_unnamed ensured none mem

/-! ## On the cluster in memory -/

/-- What the index of a run takes over from an old one, if it is there. -/
def takeOver (c : MemoryCluster) (aliasName new : String) (old : Option String) :
    Except Error SwitchOutcome :=
  if c.indices.contains new then
    .ok (.switched aliasName old new (Lifecycle.moving c aliasName old).keys)
  else .error (.cluster (.aliasActionOnMissing new))

/-- What the alias table, as it is, says to a tally. -/
def verdict (c : MemoryCluster) (identity : Identity) (tally : RunTally) :
    Except Error SwitchOutcome :=
  match identity.aliasName, skipReason? tally with
  | none, _ => .ok .notApplicable
  | some _, some reason => .ok (.skipped reason)
  | some aliasName, none =>
    match c.carriers aliasName with
    | [] => takeOver c aliasName identity.index none
    | [only] =>
      if only = identity.index then .ok .alreadyCurrent
      else takeOver c aliasName identity.index (some only)
    | many => .error (.aliasAmbiguity aliasName many)

theorem said_switchIndex {l : Lifecycle} (ensured : l.state = .ensured) (tally : RunTally)
    (c : MemoryCluster) :
    (said (l.switchIndex MemoryCluster.cluster tally c)).map
    (·.1) = verdict c l.identity tally := by
  unfold verdict
  cases named : l.identity.aliasName with
  | none =>
    rw [Lifecycle.switchIndex_of_direct MemoryCluster.cluster ensured named]
    rfl
  | some aliasName =>
    cases reasoned : skipReason? tally with
    | some reason =>
      rw [Lifecycle.switchIndex_of_skipped MemoryCluster.cluster ensured named reasoned]
      rfl
    | none =>
      have clean := Lifecycle.skipReason?_eq_none.1 reasoned
      -- the index of the run takes over from an old one that is not itself
      have takes : ∀ old : Option String, c.carriers aliasName = old.toList →
        old ≠ some l.identity.index →
          (said (l.switchIndex MemoryCluster.cluster tally c)).map
            (·.1) = takeOver c aliasName l.identity.index old := by
        intro old carried fresh
        unfold takeOver
        cases present : c.indices.contains l.identity.index with
        | true =>
          rw [Lifecycle.switchIndex_of_present ensured named clean carried fresh present]
          rfl
        | false =>
          rw [Lifecycle.switchIndex_of_missing ensured named clean carried fresh present]
          rfl
      dsimp only
      rcases carried : c.carriers aliasName with _ | ⟨only, _ | ⟨next, rest⟩⟩
      · exact takes none carried nofun
      · dsimp only
        by_cases current : only = l.identity.index
        · rw [if_pos current, Lifecycle.switchIndex_of_current ensured named clean
            (by rw [carried, current])]
          rfl
        · rw [if_neg current]
          exact takes (some only) carried (by simpa using current)
      · rw [Lifecycle.switchIndex_of_many ensured named clean (by rw [carried]; simp), carried]
        rfl

/-- A call for the decision in memory as it went. -/
structure TakenInMemory (h : Held MemoryCluster) (taken : Taken MemoryCluster) : Prop where
  /-- A call that fails leaves the whole cluster as it was, with all of its aliases and the record
  of their updates. -/
  unchanged : ∀ e v, taken.result = .error e v → v = taken.found
  /-- A call that finds the decision open goes by the alias table that it finds. -/
  afresh : taken.found.lifecycle.state = .ensured →
    said taken.result = verdict taken.found.cluster h.lifecycle.identity taken.tally

theorem takenInMemory_of_mem {h : Held MemoryCluster} {turns : List (Turn MemoryCluster)}
    {taken : Taken MemoryCluster} (mem : taken ∈ decideAll MemoryCluster.cluster turns h) :
    TakenInMemory h taken where
  unchanged e v failed := by
    rw [result_of_mem mem, decide_eq] at failed
    have decision := Lifecycle.decision_memory taken.found.lifecycle taken.tally taken.found.cluster
    split at failed
    · cases failed
    · rename_i e' s decided
      rw [decided] at decision
      cases decision
      cases failed
      rfl
  afresh ensured := by
    rw [← found_of_ensured mem ensured, ← said_switchIndex ensured, result_of_mem mem, decide_eq]
    cases taken.found.lifecycle.switchIndex MemoryCluster.cluster taken.tally
      taken.found.cluster <;> rfl

/-- **A decision is taken once.** On every cluster a final outcome ends the matter: later calls are
refused by the state that it is final in, and ask the cluster nothing. Until then a call that fails
leaves the decision as open as it was; in memory it changes nothing, and the next call goes by the
aliases that it finds. Without an alias there is nothing to ask. -/
theorem decided_once :
    (∀ {σ τ : Type} (cluster : Cluster σ τ) (turns : List (Turn (Traced σ))) (h : Held (Traced σ)),
      h.lifecycle.state = .ensured → OneShot h (decideAll cluster.traced turns h)) ∧
    ∀ (turns : List (Turn MemoryCluster)) (h : Held MemoryCluster), h.lifecycle.state = .ensured →
      OneShot h (decideAll MemoryCluster.cluster turns h) ∧
        ∀ taken ∈ decideAll MemoryCluster.cluster turns h, TakenInMemory h taken :=
  ⟨fun _ turns _ ensured => oneShot_decideAll ensured turns, fun turns _ ensured =>
    ⟨oneShot_decideAll ensured turns, fun _ mem => takenInMemory_of_mem mem⟩⟩

/-- The alias is on two indices at first. When one of them has lost it the decision is made, and is
not made again: the last call asks the cluster nothing. -/
theorem decided_once_retried :
    let c := ((({} : MemoryCluster).seed "books1" (.ofList [("books", none)]) ∅).seed "books2"
      (.ofList [("books", none)]) ∅).seed "books3" ∅ ∅
    let l : Lifecycle := ⟨.behind "books" "books3", {}, {}, .ensured, false⟩
    let clean : RunTally := ⟨{ succeeded := 1 }, false⟩
    let lose : MemoryCluster → MemoryCluster := fun c =>
      stateAfter (MemoryCluster.updateAliases [.remove "books2" "books"] c)
    let all := decideAll MemoryCluster.cluster [⟨id, clean⟩, ⟨lose, clean⟩, ⟨id, clean⟩] ⟨l, c⟩
    let traced := decideAll MemoryCluster.cluster.traced
      [⟨id, clean⟩, ⟨fun w => { w with state := lose w.state }, clean⟩, ⟨id, clean⟩] ⟨l, ⟨c, []⟩⟩
    l.state = .ensured ∧
      all.map (said ·.result) = [.error (.aliasAmbiguity "books" ["books1", "books2"]),
        .ok (.switched "books" (some "books1") "books3" ["books"]), .error
          (.lifecycleFinished .switched)] ∧
      traced.map (fun taken => (stateAfter taken.result).cluster.trace.length) = [1, 5, 5] ∧
      OneShot ⟨l, ⟨c, []⟩⟩ traced ∧ ∀ taken ∈ all, TakenInMemory ⟨l, c⟩ taken := by
  intro c l clean lose all traced
  exact ⟨rfl, by decide +kernel, by decide +kernel, decided_once.1 MemoryCluster.cluster _ _ rfl,
    (decided_once.2 _ ⟨l, c⟩ rfl).2⟩

end Held

end Reindex
