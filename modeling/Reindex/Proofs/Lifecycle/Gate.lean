import Reindex.Proofs.Cluster.Watched
import Reindex.Proofs.Lifecycle.Start
import Reindex.Proofs.Lifecycle.Switch

/-!
# The gate in front of the alias

What a lifecycle asks of a cluster under watch. Making the index ready asks for no alias update, and
neither do the look-ups before the decision; the decision asks for one at most, and only behind the
gate.

Main statement: `Lifecycle.switchIndex_gated`.
-/

namespace Reindex

variable {σ τ : Type}

namespace Lifecycle

/-! ## The decision -/

/-- What lets an alias update through: a clean ledger, and an alias that is not on the index of the
run. The cluster, when it is asked who carries the alias, names one index at most, and not that of
the run. -/
structure Gate (cluster : Cluster σ τ) (l : Lifecycle) (tally : RunTally) (s : σ) : Prop where
  clean : tally.Clean
  target : ∃ aliasName table t, l.identity.aliasName = some aliasName ∧
    cluster.aliases (.ofAlias aliasName) s = .ok table t ∧ table.keys.length ≤ 1 ∧
      l.identity.index ∉ table.keys

/-- The index that carries an alias is the only one in the table of those that do. -/
theorem table_of_aliasTarget {cluster : Cluster σ τ} {aliasName : String} {old : Option String}
    {s t : σ} (h : aliasTarget cluster aliasName s = .ok old t) :
    ∃ table, cluster.aliases (.ofAlias aliasName) s = .ok table t ∧ table.keys = old.toList := by
  unfold aliasTarget at h
  obtain ⟨table, u, asked, found⟩ := bind_eq_ok h
  have answered : cluster.aliases (.ofAlias aliasName) s = .ok table u := call_eq_ok asked
  rcases keys : table.keys with _ | ⟨only, _ | ⟨second, others⟩⟩ <;> rw [keys] at found <;>
    cases found
  · exact ⟨table, answered, keys⟩
  · exact ⟨table, answered, keys⟩

theorem keeps_aliasTarget (cluster : Cluster σ τ) (aliasName : String) (us : List AliasUpdate) :
    Keeps (fun w : Watched σ => w.updates = us) (aliasTarget cluster.watched aliasName) := by
  unfold aliasTarget
  refine .bind (Watched.keeps_pass us _).call fun table => ?_
  split
  · exact .pure none
  · exact .pure _
  · exact .throw _

theorem keeps_planSwitch (cluster : Cluster σ τ) (aliasName : String) (old : Option String)
    (new : String) (us : List AliasUpdate) :
    Keeps (fun w : Watched σ => w.updates = us) (planSwitch cluster.watched aliasName old new) := by
  unfold planSwitch
  cases old with
  | none => exact .pure _
  | some old =>
    refine .bind (Watched.keeps_pass us _).call fun found => ?_
    split
    · exact .bind (Watched.keeps_pass us _).call fun attached => .pure _
    · exact .pure _

/-- What a decision on the alias leaves in the record: nothing, and then the alias did not move; or
one alias update behind the gate, which worked if and only if the alias moved. -/
structure Decided (cluster : Cluster σ τ) (l : Lifecycle) (tally : RunTally) (w : Watched σ)
    (r : EStateM.Result Error (Watched σ) (SwitchOutcome × Lifecycle)) : Prop where
  updates : (stateAfter r).updates = w.updates ∨
    ∃ actions, (stateAfter r).updates = w.updates ++ [⟨actions, worked r⟩] ∧
      Gate cluster.watched l tally w
  switched : ∀ decided v, r = .ok decided v →
    (decided.1.isSwitched = true ↔ (stateAfter r).updates ≠ w.updates)
  current : ∀ decided v, r = .ok decided v → decided.1 = .alreadyCurrent → tally.Clean
  identity : ∀ decided v, r = .ok decided v → decided.2.identity = l.identity

theorem Decided.of_failed {cluster : Cluster σ τ} {l : Lifecycle} {tally : RunTally}
    {w u : Watched σ} (e : Error) (hu : u.updates = w.updates) :
    Decided cluster l tally w (.error e u) where
  updates := .inl hu
  switched := by rintro decided v ⟨⟩
  current := by rintro decided v ⟨⟩
  identity := by rintro decided v ⟨⟩

/-- The alias was left where it is. -/
theorem Decided.of_left {cluster : Cluster σ τ} {l l' : Lifecycle} {tally : RunTally}
    {w u : Watched σ} {outcome : SwitchOutcome} (hu : u.updates = w.updates)
    (ho : outcome.isSwitched = false) (hc : outcome = .alreadyCurrent → tally.Clean)
    (hl : l'.identity = l.identity) :
    Decided cluster l tally w (.ok (outcome, l') u) where
  updates := .inl hu
  switched := by
    rintro decided v ⟨⟩
    simp [ho, stateAfter, hu]
  current := by
    rintro decided v ⟨⟩
    exact hc
  identity := by
    rintro decided v ⟨⟩
    exact hl

/-- The cluster was asked, and the alias moved if that worked. -/
theorem Decided.of_asked {cluster : Cluster σ τ} {l : Lifecycle} {tally : RunTally} {w : Watched σ}
    {r : EStateM.Result Error (Watched σ) (SwitchOutcome × Lifecycle)} {actions : List AliasAction}
    (hg : Gate cluster.watched l tally w)
    (asked : (stateAfter r).updates = w.updates ++ [⟨actions, worked r⟩])
    (moved : ∀ decided v, r = .ok decided v → decided.1.isSwitched = true ∧
      decided.2.identity = l.identity) :
    Decided cluster l tally w r where
  updates := .inr ⟨actions, asked, hg⟩
  switched decided v hr := by simp [(moved decided v hr).1, asked]
  current _ _ _ _ := hg.clean
  identity decided v hr := (moved decided v hr).2

/-- The cluster is asked behind the gate only. -/
theorem Decided.gate {cluster : Cluster σ τ} {l : Lifecycle} {tally : RunTally} {w : Watched σ}
    {r : EStateM.Result Error (Watched σ) (SwitchOutcome × Lifecycle)}
    (hd : Decided cluster l tally w r) (more : (stateAfter r).updates ≠ w.updates) :
    Gate cluster.watched l tally w := by
  obtain ⟨_, -, hg⟩ := hd.updates.resolve_left more
  exact hg

/-- Without a clean ledger the alias does not move, nor is it found where it should be. -/
theorem Decided.of_unclean {cluster : Cluster σ τ} {l : Lifecycle} {tally : RunTally}
    {w v : Watched σ} {r : EStateM.Result Error (Watched σ) (SwitchOutcome × Lifecycle)}
    {decided : SwitchOutcome × Lifecycle} (hd : Decided cluster l tally w r)
    (hr : r = .ok decided v) (unclean : ¬ tally.Clean) :
    decided.1.isSwitched = false ∧ decided.1 ≠ .alreadyCurrent := by
  refine ⟨Bool.eq_false_iff.2 fun ho => ?_, fun ho => unclean (hd.current decided v hr ho)⟩
  exact unclean (hd.gate ((hd.switched decided v hr).1 ho)).clean

theorem decided_publish (cluster : Cluster σ τ) {l : Lifecycle} {tally : RunTally} {w u : Watched σ}
    (aliasName : String) (old : Option String) (hu : u.updates = w.updates)
    (hg : Gate cluster.watched l tally w) :
    Decided cluster l tally w (publish cluster.watched l aliasName old u) := by
  unfold publish
  have planning := keeps_planSwitch cluster aliasName old l.identity.index w.updates
  cases hp : planSwitch cluster.watched aliasName old l.identity.index u with
  | error e v =>
    rw [bind_of_error hp]
    exact .of_failed e (planning.of_error hu hp)
  | ok plan v =>
    have planned : v.updates = w.updates := planning.of_ok hu hp
    rw [bind_of_ok hp]
    -- the record tells whether the one update worked
    have asked := Watched.updates_update plan.actions (cluster.updateAliases plan.actions) v
    rw [planned] at asked
    cases ha : Watched.update plan.actions (cluster.updateAliases plan.actions) v with
    | ok a x =>
      rw [ha] at asked
      rw [bind_of_ok
        (call_of_ok (show cluster.watched.updateAliases plan.actions v = .ok a x from ha))]
      refine .of_asked hg asked ?_
      rintro decided _ ⟨⟩
      exact ⟨rfl, rfl⟩
    | error e x =>
      rw [ha] at asked
      rw [bind_of_error
        (call_of_error (show cluster.watched.updateAliases plan.actions v = .error e x from ha))]
      refine .of_asked hg asked ?_
      rintro decided _ ⟨⟩

/-- **An alias update goes through the gate.** -/
theorem switchIndex_gated (cluster : Cluster σ τ) (l : Lifecycle) (tally : RunTally)
    (w : Watched σ) :
    Decided cluster l tally w (l.switchIndex cluster.watched tally w) := by
  by_cases hl : l.state = .ensured
  · cases ha : l.identity.aliasName with
    | none =>
      rw [switchIndex_of_direct _ hl ha]
      exact .of_left rfl rfl (fun h => by cases h) rfl
    | some aliasName =>
      cases hs : skipReason? tally with
      | some reason =>
        rw [switchIndex_of_skipped _ hl ha hs]
        exact .of_left rfl rfl (fun h => by cases h) rfl
      | none =>
        have clean := skipReason?_eq_none.1 hs
        rw [switchIndex_of_clean _ hl ha clean]
        have looking := keeps_aliasTarget cluster aliasName w.updates
        cases ht : aliasTarget cluster.watched aliasName w with
        | error e u =>
          rw [bind_of_error ht]
          exact .of_failed e (looking.of_error rfl ht)
        | ok old u =>
          have looked : u.updates = w.updates := looking.of_ok rfl ht
          rw [bind_of_ok ht]
          by_cases ho : old = some l.identity.index
          · rw [if_pos ho]
            exact .of_left looked rfl (fun _ => clean) rfl
          · rw [if_neg ho]
            obtain ⟨table, answered, keys⟩ := table_of_aliasTarget ht
            refine decided_publish cluster aliasName old looked ⟨clean, aliasName, table, u, ha,
              answered, ?_, ?_⟩
            · rw [keys]
              cases old <;> simp
            · rw [keys, Option.mem_toList]
              exact ho
  · rw [switchIndex_of_finished _ hl]
    exact .of_failed _ rfl

/-! ## Making ready -/

/-- Nothing that a run does first goes into the record. -/
theorem keeps_start (cluster : Cluster σ τ) (policy : NamingPolicy) (now : Instant)
    (tuning : Tuning) (payload : IndexPayload) (options : LifecycleOptions)
    (us : List AliasUpdate) :
    Keeps (fun w : Watched σ => w.updates = us)
      (start cluster.watched policy now tuning payload options) :=
  keeps_starting (cluster.watched_prepares us)

end Lifecycle

end Reindex
