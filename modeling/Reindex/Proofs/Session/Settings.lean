import Reindex.Proofs.Lifecycle.Managed
import Reindex.Proofs.Session.Regime
import Reindex.Proofs.Session.Reliable

/-!
# The settings of an index over a whole session

On the cluster in memory an index is made with its managed settings as configured. Each bulk window
lowers them, and its end puts them back; settings that are not managed are never touched. So behind
every flush and at the end of a session the index has the settings that it was made with.

Main statement: `Session.settings_round_trip`.
-/

namespace Reindex

/-! ## Lowering and putting back -/

theorem SettingsUpdate.apply_of_isEmpty {u : SettingsUpdate} (h : u.isEmpty = true)
    (settings : Nat × String) :
    u.apply settings = settings := by
  obtain ⟨replicas, interval⟩ := u
  cases replicas with
  | some n => cases h
  | none =>
    cases interval with
    | some r => cases h
    | none => rfl

/-- Behind a window the settings are what they were, if the managed ones were as configured. -/
theorem Tuning.apply_restore_window (t : Tuning) (settings : Nat × String) :
    t.restoreUpdate.apply (t.windowUpdate.apply (t.restoreUpdate.apply settings)) =
      t.restoreUpdate.apply settings := by
  unfold restoreUpdate windowUpdate SettingsUpdate.apply
  cases t.replicas <;> cases t.refreshInterval <;> rfl

/-- The update says nothing of what is not managed. -/
structure Tuning.Manages (t : Tuning) (u : SettingsUpdate) : Prop where
  replicas : t.replicas = none → u.replicas = none
  refreshInterval : t.refreshInterval = none → u.refreshInterval = none

/-- What is not managed has not changed. -/
structure Tuning.Spares (t : Tuning) (born now : Nat × String) : Prop where
  replicas : t.replicas = none → now.1 = born.1
  refreshInterval : t.refreshInterval = none → now.2 = born.2

theorem Tuning.Manages.spares {t : Tuning} {u : SettingsUpdate} (h : t.Manages u)
    (born : Nat × String) :
    t.Spares born (u.apply born) where
  replicas hr := by rw [SettingsUpdate.apply, h.replicas hr]; rfl
  refreshInterval hi := by rw [SettingsUpdate.apply, h.refreshInterval hi]; rfl

theorem Tuning.manages_windowUpdate (t : Tuning) : t.Manages t.windowUpdate where
  replicas h := by rw [windowUpdate, h]; rfl
  refreshInterval h := by rw [windowUpdate, h]; rfl

theorem Tuning.manages_restoreUpdate (t : Tuning) : t.Manages t.restoreUpdate := ⟨id, id⟩

/-! ## The settings as a regime -/

namespace MemoryCluster

/-- These settings are in effect, and since `before` only managed ones were changed, and of no other
index. -/
structure SettingsAt (setup : WriterSetup) (before : List (String × SettingsUpdate))
    (settings : Nat × String) (c : MemoryCluster) : Prop where
  effective : seen effective setup.index c = some settings
  changes : ∃ later, c.settingsHistory = before ++ later ∧
    ∀ change ∈ later, change.1 = setup.index ∧ setup.tuning.Manages change.2

variable {setup : WriterSetup} {before : List (String × SettingsUpdate)} {settings : Nat × String}

theorem SettingsAt.present {c : MemoryCluster} (h : SettingsAt setup before settings c) :
    c.Present setup.index := by
  obtain ⟨ix, there, -⟩ := Option.map_eq_some_iff.1 h.effective
  exact Dict.contains_iff.2 ⟨ix, there⟩

/-- What leaves the settings and their record as they are. -/
theorem SettingsAt.of_same {c v : MemoryCluster} (h : SettingsAt setup before settings c)
    (same : seen MemoryCluster.effective setup.index v = seen MemoryCluster.effective setup.index c)
    (recorded : v.settingsHistory = c.settingsHistory) : SettingsAt setup before settings v :=
  ⟨same.trans h.effective, recorded ▸ h.changes⟩

/-- A change of the managed settings is in effect behind it. -/
theorem leads_manage {update : SettingsUpdate} (hm : setup.tuning.Manages update)
    (created : setup.created = true) {E : MemoryCluster → Prop} :
    Leads (SettingsAt setup before settings) (cluster.manage setup update)
      (SettingsAt setup before (update.apply settings)) E := by
  intro c h
  unfold Cluster.manage
  by_cases he : update.isEmpty = true
  · rw [he, SettingsUpdate.apply_of_isEmpty he, if_neg (by simp)]
    exact h
  · obtain ⟨v, updated, seen, recorded⟩ := updateSettings_of_seen h.effective update
    obtain ⟨later, history, only⟩ := h.changes
    rw [if_pos (by simp [created, he]), show cluster.updateSettings setup.index update c =
      _ from updated]
    refine ⟨seen, later ++ [(setup.index, update)],
      by rw [recorded, history, List.append_assoc], fun change hc => ?_⟩
    rcases List.mem_append.1 hc with hc | hc
    · exact only change hc
    · obtain rfl := List.mem_singleton.1 hc
      exact ⟨rfl, hm⟩

/-- The settings outside and inside of the windows of a writer. -/
def settingsRegime (setup : WriterSetup) (before : List (String × SettingsUpdate))
    (born : Nat × String) :
    Regime MemoryCluster :=
  { closed := SettingsAt setup before born
    opened := SettingsAt setup before (setup.tuning.windowUpdate.apply born) }

/-- **The cluster in memory follows this regime** for an index that was made with its managed
settings as configured. -/
theorem follows_settings (created : setup.created = true) (before : List (String × SettingsUpdate))
    (requested : Nat × String) :
    let r := settingsRegime setup before (setup.tuning.restoreUpdate.apply requested)
    cluster.Follows setup r r := by
  intro r
  have store (settings : Nat × String) (id body : String) :
      Leads (SettingsAt setup before settings) (cluster.putDocument setup.index id body)
        (SettingsAt setup before settings) (SettingsAt setup before settings) :=
    .of_keeps fun c h =>
      h.of_same (seen_putDocument (fun _ _ => rfl) setup.index id body setup.index c)
      (settingsHistory_change _ _ _ c)
  have refresh : Leads r.closed (cluster.refreshIndex setup.index) r.closed r.closed :=
    .of_keeps fun c h => h.of_same (seen_refreshIndex (fun _ _ => rfl) setup.index setup.index c)
      (settingsHistory_change _ _ _ c)
  exact
    { carries :=
        { beginBulk := fun _ _ _ _ h => h
          finishBulk := fun _ key ops c h =>
            h.of_same (seen_bulk (fun _ _ => rfl) key ops setup.index c)
              (settingsHistory_bulk key ops c) }
      lower := leads_manage setup.tuning.manages_windowUpdate created
      restore := by
        have restored : Leads r.opened (cluster.manage setup setup.tuning.restoreUpdate) _
          r.closed :=
          leads_manage setup.tuning.manages_restoreUpdate created
        rw [setup.tuning.apply_restore_window] at restored
        exact restored
      refresh
      read := fun id => ⟨fun _ h => h, fun _ h => h⟩
      store := fun id body => ⟨store _ id body, store _ id body⟩
      decides :=
        { indexExists := fun _ _ h => h
          aliases := fun _ _ h => h
          updateAliases := fun actions => .of_keeps fun c h =>
            h.of_same (seen_updateAliases (fun _ _ => rfl) actions setup.index c)
              (settingsHistory_updateAliases actions c)
          given := fun _ h => h } }

end MemoryCluster

/-! ## The whole session -/

namespace Session

/-- What a session does to the settings that its index was made with, from one of its points on. -/
structure RoundTrip (setup : WriterSetup) (before : List (String × SettingsUpdate))
    (born : Nat × String) (s : Session MemoryCluster Unit) : Prop where
  /-- What is not managed is as it was. -/
  spared : ∃ now, setup.tuning.Spares born now ∧
    MemoryCluster.SettingsAt setup before now s.writer.cluster
  /-- A flush works, and behind it everything is as it was. -/
  flushed : ∃ drained v, flush MemoryCluster.cluster s = .ok drained v ∧
    MemoryCluster.SettingsAt setup before born v.writer.cluster
  /-- So it is behind the end. -/
  ended : ∀ ending,
    MemoryCluster.SettingsAt setup before born
      (stateAfter (conclude MemoryCluster.cluster ending s)).writer.cluster

/-- The regime is all that it takes. -/
theorem roundTrip_of_under {setup : WriterSetup} {before : List (String × SettingsUpdate)}
    {requested : Nat × String} {u : Session MemoryCluster Unit} (created : setup.created = true)
    (kept : u.With setup
      (Writer.Under
        (MemoryCluster.settingsRegime setup before (setup.tuning.restoreUpdate.apply requested)))) :
    RoundTrip setup before (setup.tuning.restoreUpdate.apply requested) u := by
  have follows := MemoryCluster.follows_settings created before requested
  obtain ⟨now, spared, hnow⟩ : ∃ now, setup.tuning.Spares _ now ∧
      MemoryCluster.SettingsAt setup before now u.writer.cluster := by
    cases kept.writer with
    | closed hw => exact ⟨_, ⟨fun _ => rfl, fun _ => rfl⟩, hw.cluster⟩
    | opened hw => exact ⟨_, setup.tuning.manages_windowUpdate.spares _, hw.cluster⟩
  have reliable : MemoryCluster.cluster.Reliable u.lifecycle.identity.index
    (MemoryCluster.Present setup.index) := by
    rw [show u.lifecycle.identity.index = setup.index from congrArg WriterSetup.index kept.setup]
    exact MemoryCluster.reliable setup.index
  refine ⟨⟨now, spared, hnow⟩, ?_, fun ending => ?_⟩
  · obtain ⟨drained, hv⟩ :=
      eq_ok_of_worked (worked_flush reliable ⟨hnow.present, kept.writer.atRest⟩)
    obtain ⟨-, tally, closed⟩ := (leads_flush (Writer.leads_flush follows)).of_ok kept hv
    exact ⟨drained, _, hv, closed.cluster⟩
  · obtain ⟨tally, closed⟩ := (leads_conclude follows ending).stateAfter kept
    exact closed.cluster

/-- The settings right after the start of a session that made its index. -/
theorem settings_of_start {policy : NamingPolicy} {now : Instant} {tuning : Tuning}
    {payload : IndexPayload} {options : SessionOptions} {c : MemoryCluster}
    {s : Session MemoryCluster Unit}
    (hs : start MemoryCluster.cluster policy now tuning payload options c = .ok s)
    (created : s.lifecycle.created = true) (narrow : ∀ n ∈ tuning.replicas, n < UInt32.size) :
    s.setup = ⟨s.lifecycle.identity.index, tuning, true, options.writer⟩ ∧
    s.writer = .idle s.writer.cluster ∧
      MemoryCluster.SettingsAt s.setup c.settingsHistory
        (tuning.restoreUpdate.apply (MemoryIndex.requested payload.settings)) s.writer.cluster := by
  obtain ⟨l, v, hl, rfl⟩ := ofLifecycle_of_start hs
  have started := Lifecycle.startedInMemory_of_ok hl
  obtain ⟨-, -, same, indices⟩ := started.made created
  refine ⟨?_, rfl, ?_, [], ?_, by simp⟩
  · show (⟨l.identity.index, l.tuning, l.created, options.writer⟩ : WriterSetup) = _
    rw [started.tuning, show l.created = true from created]
    rfl
  · show (v.indices.get? l.identity.index).map MemoryCluster.effective = _
    rw [indices, if_pos rfl, Option.map_some,
      MemoryIndex.effective_fresh payload.settings payload.mappings narrow]
  · show v.settingsHistory = _
    rw [same, List.append_nil]

/-- **Settings make a round trip.** -/
theorem settings_round_trip {policy : NamingPolicy} {now : Instant} {tuning : Tuning}
    {payload : IndexPayload} {options : SessionOptions} {c : MemoryCluster}
    {s : Session MemoryCluster Unit}
    (hs : start MemoryCluster.cluster policy now tuning payload options c = .ok s)
    (created : s.lifecycle.created = true) (narrow : ∀ n ∈ tuning.replicas, n < UInt32.size) :
    let setup : WriterSetup := ⟨s.lifecycle.identity.index, tuning, true, options.writer⟩
    ∃ born, MemoryCluster.seen MemoryCluster.effective setup.index s.writer.cluster = some born ∧
      (∀ n ∈ tuning.replicas, born.1 = n) ∧ (∀ r ∈ tuning.refreshInterval, born.2 = r) ∧
      ∀ calls, RoundTrip setup c.settingsHistory born (carryOut MemoryCluster.cluster calls s) := by
  intro setup
  obtain ⟨same, idle, started⟩ := settings_of_start hs created narrow
  have same : s.setup = setup := same
  rw [same] at started
  refine ⟨_, started.effective, fun n hn => ?_, fun r hr => ?_, fun calls => ?_⟩
  · rw [SettingsUpdate.apply, Tuning.restoreUpdate, Option.mem_def.1 hn]
    rfl
  · rw [SettingsUpdate.apply, Tuning.restoreUpdate, Option.mem_def.1 hr]
    rfl
  · have follows :=
      MemoryCluster.follows_settings (show setup.created = true from rfl) c.settingsHistory
      (MemoryIndex.requested payload.settings)
    exact roundTrip_of_under rfl
      (under_carryOut follows calls ⟨same, .closed ⟨congrArg Writer.window idle, started⟩⟩)

/-- Both settings are asked for, in nested spelling, and one of them is managed. -/
theorem settings_round_trip_nested :
    let cluster := MemoryCluster.cluster
    let policy : NamingPolicy := ⟨"books", none, false⟩
    let tuning : Tuning := { refreshInterval := none }
    let asked : Json :=
      .object [("number_of_replicas", .string "2"), ("refresh_interval", .string "5s")]
    let setup : WriterSetup := ⟨"books", tuning, true, {}⟩
    ∃ s, start cluster policy ⟨0, 0⟩ tuning ⟨.object [("index", asked)], .null⟩ {}
      { rejections := 1 } = .ok s ∧
      s.lifecycle.created = true ∧ (∀ n ∈ tuning.replicas, n < UInt32.size) ∧
      MemoryCluster.seen MemoryCluster.effective "books" s.writer.cluster = some (1, "5s") ∧
      ∀ calls, RoundTrip setup [] (1, "5s") (carryOut cluster calls s) := by
  intro cluster policy tuning asked setup
  let l : Lifecycle := ⟨.direct "books", tuning, {}, .ensured, true⟩
  have started : start cluster policy ⟨0, 0⟩ tuning ⟨.object [("index", asked)], .null⟩ {}
    { rejections := 1 } =
      .ok (ofLifecycle l {} _) := start_of_lifecycle (eq_ok_of_answer (by decide +kernel))
  have narrow : ∀ n ∈ tuning.replicas, n < UInt32.size := by decide
  obtain ⟨born, seen, -, -, trip⟩ := settings_round_trip started rfl narrow
  obtain rfl : (1, "5s") = born := Option.some.inj (Eq.trans (by decide +kernel) seen)
  exact ⟨_, started, rfl, narrow, seen, trip⟩

end Session

end Reindex
