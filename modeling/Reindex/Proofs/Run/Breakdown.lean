import Reindex.CommandLine
import Reindex.Proofs.Run.Feed
import Reindex.Proofs.Session.Settings
import Reindex.Proofs.Session.Window

/-!
# When a run breaks down

A configuration may hold numbers that an operation of its run cannot take. Such a run breaks down
exactly if it comes to that operation: the wait for the cluster, behind an index that is made sure
of, or the opening of the channel, behind settings that were lowered. With every number in its range
the process ends with a code of its own choice, unless the name of its run cannot be written.

Main statement: `Command.carryOut_exit`, for every configuration. `left_of_breakdown` says what is
left on a cluster in memory.
-/

namespace Reindex

variable {σ τ : Type} {cluster : Cluster σ τ} {config : Config} {files : Files}
    {now : Instant} {s : σ}

/-- The run comes to the wait for its cluster: the name is resolved, and the index is made sure
of. -/
def ComesToWait (cluster : Cluster σ τ) (config : Config) (files : Files) (now : Instant)
    (s : σ) : Prop :=
  ∃ policy payload identity created t u,
    config.namingPolicy = .ok policy ∧ config.index.loadPayload files = .ok payload ∧
    policy.resolve cluster now s = .ok identity t ∧
    Lifecycle.ensureIndex cluster identity.index config.index.tuning payload
      config.sessionOptions.lifecycle t =
      .ok created u

/-- The run comes to open its channel: it is open when the feed ends, however that is. -/
def OpensChannel (cluster : Cluster σ τ) (config : Config) (files : Files) (now : Instant)
    (s : σ) : Prop :=
  ∃ policy payload session,
    config.namingPolicy = .ok policy ∧ config.index.loadPayload files = .ok payload ∧
    Session.start cluster policy now config.index.tuning payload config.sessionOptions s =
      .ok session ∧
    (stateAfter (feed cluster files config.inputFile session)).writer.window.isOpen = true

/-! ## The opening of the channel -/

namespace Session

variable {session : Session σ τ} {tally : RunTally}

theorem keeps_isOpen_add (cluster : Cluster σ τ) (op : Operation) :
    Keeps (fun s : Session σ τ => s.writer.window.isOpen = true) (add cluster op) := by
  intro s hs
  cases ho : s.writer.window with
  | closed tally =>
    rw [ho] at hs
    cases hs
  | opened channel =>
    have added := Writer.add_of_opened cluster s.setup op ho
    rw [show add cluster op s = .ok () _ from writing_of_ok added]
    rfl

theorem writing_of_error {α : Type} {x : WriterSetup → EStateM Error (Writer σ τ) α} {e : Error}
    {w : Writer σ τ} (h : x session.setup session.writer = .error e w) :
    writing x session = .error e { session with writer := w } := by
  unfold writing
  rw [h]

/-- The first operation is written and opens the channel, if the settings for the window can be put
in place. -/
theorem first_add (cluster : Cluster σ τ) (op : Operation)
    (closed : session.writer.window = .closed tally) :
    let lowered :=
      worked (Writer.applySettings cluster session.setup session.setup.tuning.windowUpdate
        session.writer)
    worked (add cluster op session) = lowered ∧
      (stateAfter (add cluster op session)).writer.window.isOpen = lowered := by
  intro lowered
  have window :=
    Writer.window_applySettings cluster session.setup session.setup.tuning.windowUpdate closed
  cases applied : Writer.applySettings cluster session.setup session.setup.tuning.windowUpdate
    session.writer with
  | ok a w =>
    have yes : lowered = true := congrArg worked applied
    rw [yes, show add cluster op session = .ok () _ from
      writing_of_ok (Writer.add_of_closed cluster session.setup op closed applied)]
    exact ⟨rfl, rfl⟩
  | error e w =>
    have no : lowered = false := congrArg worked applied
    rw [applied] at window
    have opening := Writer.openChannel_of_closed cluster session.setup closed
    rw [applied] at opening
    have added : Writer.add cluster session.setup op session.writer = .error e w :=
      bind_of_error opening _
    rw [no, show add cluster op session = .error e _ from writing_of_error added]
    refine ⟨rfl, ?_⟩
    show w.window.isOpen = false
    rw [show w.window = .closed tally from window]
    rfl

/-- Lines open the channel if the first of them that is not blank is a record. -/
theorem isOpen_feedLines (cluster : Cluster σ τ) (path : String) (lines : List (Option String))
    (n : Nat) (closed : session.writer.window = .closed tally) :
    (stateAfter (feedLines cluster path lines n session)).writer.window.isOpen =
      match RecordSource.read path lines n with
      | (.ok (some _), _) =>
        worked (Writer.applySettings cluster session.setup session.setup.tuning.windowUpdate
          session.writer)
      | _ => false := by
  have still : session.writer.window.isOpen = false := by rw [closed]; rfl
  induction lines generalizing n with
  | nil => exact still
  | cons line lines ih =>
    rw [RecordSource.read_cons, feedLines_cons]
    cases RecordSource.readLine line with
    | error reason => exact still
    | ok found =>
      cases found with
      | none => exact ih (n + 1)
      | some record =>
        obtain ⟨works, isOpen⟩ := first_add cluster record.operation closed
        dsimp only
        rw [← isOpen]
        cases added : add cluster record.operation session with
        | ok a u =>
          have adapted : (add cluster record.operation).adaptExcept RunError.index session =
            .ok a u := by
            unfold EStateM.adaptExcept
            rw [added]
          rw [added] at works isOpen
          have opened : u.writer.window.isOpen = true := isOpen.trans works.symm
          rw [bind_of_ok adapted]
          exact (keeps_feedLines (keeps_isOpen_add cluster) path lines (n + 1) u opened).trans
            opened.symm
        | error e u =>
          have adapted : (add cluster record.operation).adaptExcept RunError.index session = .error
            (.index e) u := by
            unfold EStateM.adaptExcept
            rw [added]
          rw [bind_of_error adapted]
          rfl

/-- **A feed opens the channel** exactly if there is something to write and the settings for the
window can be put in place. -/
theorem isOpen_feed (cluster : Cluster σ τ) (files : Files) (input : Option String)
    (closed : session.writer.window = .closed tally) :
    (stateAfter (feed cluster files input session)).writer.window.isOpen =
    (session.opening? cluster files input).isSome := by
  have still : session.writer.window.isOpen = false := by rw [closed]; rfl
  cases input with
  | none => exact still
  | some path =>
    cases opened : RecordSource.ofFile? path (files path) with
    | none =>
      have fed : feed cluster files (some path) session = .error (.noRecordFile path) session := by
        unfold feed
        simp only [opened]
        rfl
      rw [fed, opening?, if_neg (by simp [hasRecord, opened])]
      exact still
    | some source =>
      obtain ⟨same, start⟩ := RecordSource.start_of_ofFile? opened
      rw [feed_of_opened opened, isOpen_feedLines cluster path source.lines 0 closed]
      unfold opening? hasRecord
      simp only [Option.bind_some, opened, same, start]
      generalize RecordSource.read path source.lines 0 = read
      obtain ⟨_ | _ | record, rest⟩ := read
      · rfl
      · rfl
      · cases Writer.applySettings cluster session.setup session.setup.tuning.windowUpdate
          session.writer <;> rfl

end Session

/-! ## The run -/

/-- What a start does up to the wait for the cluster works exactly if the name is resolved and the
index made sure of. -/
theorem Lifecycle.prepare_eq_ok {policy : NamingPolicy} {tuning : Tuning} {payload : IndexPayload}
    {options : LifecycleOptions} {u : σ} :
    prepare cluster policy now tuning payload options s = .ok () u ↔
      ∃ identity t created, policy.resolve cluster now s = .ok identity t ∧
        ensureIndex cluster identity.index tuning payload options t = .ok created u := by
  unfold prepare
  constructor
  · intro h
    obtain ⟨identity, t, resolved, h⟩ := bind_eq_ok h
    obtain ⟨created, v, ensured, h⟩ := bind_eq_ok h
    cases h
    exact ⟨identity, t, created, resolved, ensured⟩
  · rintro ⟨identity, t, created, resolved, ensured⟩
    rw [bind_of_ok resolved, bind_of_ok ensured]
    rfl

/-- A session that started came by the wait for its cluster. -/
theorem comesToWait_of_start {policy : NamingPolicy} {payload : IndexPayload}
    {session : Session σ τ} (named : config.namingPolicy = .ok policy)
    (loaded : config.index.loadPayload files = .ok payload)
    (started : Session.start cluster policy now config.index.tuning payload config.sessionOptions
      s = .ok session) :
    ComesToWait cluster config files now s := by
  obtain ⟨l, v, hl, -⟩ := Session.ofLifecycle_of_start started
  unfold Lifecycle.start at hl
  obtain ⟨identity, t, resolved, hl⟩ := bind_eq_ok hl
  obtain ⟨created, u, ensured, -⟩ := bind_eq_ok hl
  exact ⟨policy, payload, identity, created, t, u, named, loaded, resolved, ensured⟩

/-- What a run breaks down at, and what it leaves. -/
theorem breakdown?_eq_some {place : Breakdown} {v : σ} :
    breakdown? cluster config files now s = some (place, v) ↔
      ∃ policy payload, config.namingPolicy = .ok policy ∧
        config.index.loadPayload files = .ok payload ∧
        ((place = .wait ∧ ¬ config.Awaitable ∧
          Lifecycle.prepare cluster policy now config.index.tuning payload
            config.sessionOptions.lifecycle s = .ok () v) ∨
          (place = .channel ∧ config.Awaitable ∧ ¬ config.index.tuning.limits.Openable ∧
            ∃ session,
              Session.start cluster policy now config.index.tuning payload config.sessionOptions s =
                .ok session ∧
                session.opening? cluster files config.inputFile = some v)) := by
  unfold breakdown?
  constructor
  · intro h
    split at h
    · rename_i policy payload named loaded
      refine ⟨policy, payload, named, loaded, ?_⟩
      split at h
      · rename_i awaitable
        split at h
        · cases h
        · rename_i narrow
          split at h
          · rename_i session started
            obtain ⟨w, opening, same⟩ := Option.map_eq_some_iff.1 h
            cases same
            exact .inr ⟨rfl, awaitable, narrow, session, started, opening⟩
          · cases h
      · rename_i long
        split at h
        · rename_i prepared
          cases h
          exact .inl ⟨rfl, long, prepared⟩
        · cases h
    · cases h
  · rintro ⟨policy, payload, named, loaded,
      ⟨rfl, long, prepared⟩ | ⟨rfl, awaitable, narrow, session, started, opening⟩⟩
    · simp only [named, loaded, if_neg long, prepared]
    · simp only [named, loaded, if_pos awaitable, if_neg narrow, started, opening, Option.map_some]

/-- **Where a run breaks down.** It comes to the wait for its cluster and the wait is out of range,
or it comes to open its channel and the limits are. -/
theorem breakdown?_isSome (cluster : Cluster σ τ) (config : Config) (files : Files) (now : Instant)
    (s : σ) :
    (breakdown? cluster config files now s).isSome = true ↔
      (¬ config.Awaitable ∧ ComesToWait cluster config files now s) ∨
        (¬ config.index.tuning.limits.Openable ∧ OpensChannel cluster config files now s) := by
  rw [Option.isSome_iff_exists]
  constructor
  · rintro ⟨⟨place, v⟩, broken⟩
    obtain ⟨policy, payload, named, loaded, ⟨-, long, prepared⟩ | ⟨-, -, narrow, session, started,
      opening⟩⟩ :=
      breakdown?_eq_some.1 broken
    · obtain ⟨identity, t, created, resolved, ensured⟩ := Lifecycle.prepare_eq_ok.1 prepared
      exact .inl ⟨long, policy, payload, identity, created, t, v, named, loaded, resolved, ensured⟩
    · refine .inr ⟨narrow, policy, payload, session, named, loaded, started, ?_⟩
      obtain ⟨l, u, -, rfl⟩ := Session.ofLifecycle_of_start started
      rw [Session.isOpen_feed cluster files config.inputFile rfl, opening]
      rfl
  · have waits (long : ¬ config.Awaitable) (comes : ComesToWait cluster config files now s) :
        ∃ broken, breakdown? cluster config files now s = some broken := by
      obtain ⟨policy, payload, identity, created, t, u, named, loaded, resolved, ensured⟩ := comes
      have prepared := Lifecycle.prepare_eq_ok.2 ⟨identity, t, created, resolved, ensured⟩
      exact ⟨(.wait, u),
        breakdown?_eq_some.2 ⟨policy, payload, named, loaded, .inl ⟨rfl, long, prepared⟩⟩⟩
    rintro (⟨long, comes⟩ | ⟨narrow, policy, payload, session, named, loaded, started, isOpen⟩)
    · exact waits long comes
    · by_cases awaitable : config.Awaitable
      · obtain ⟨l, u, -, rfl⟩ := id (Session.ofLifecycle_of_start started)
        obtain ⟨v, opening⟩ := Option.isSome_iff_exists.1 <|
          (Session.isOpen_feed cluster files config.inputFile rfl).symm.trans isOpen
        exact ⟨(.channel, v), breakdown?_eq_some.2
          ⟨policy, payload, named, loaded, .inr ⟨rfl, awaitable, narrow, _, started, opening⟩⟩⟩
      · exact waits awaitable (comesToWait_of_start named loaded started)

/-- A session that comes to open its channel has the settings for the window in place. -/
theorem Session.lowered_of_opening {session : Session σ τ} {input : Option String} {v : σ}
    (h : session.opening? cluster files input = some v) : ∃ w,
      Writer.applySettings cluster session.setup session.setup.tuning.windowUpdate session.writer =
        .ok () w ∧
      w.cluster = v := by
  unfold opening? at h
  split at h
  · split at h
    · rename_i w lowered
      exact ⟨w, lowered, Option.some.inj h⟩
    · cases h
  · cases h

/-- **What a run leaves that breaks down at its channel,** on a cluster in memory: an index that was
made stays as it is inside of a bulk window, with its managed settings lowered, and one that was
found stays as it was. -/
theorem left_of_breakdown {c v : MemoryCluster}
    (narrow : ∀ n ∈ config.index.tuning.replicas, n < UInt32.size)
    (h : breakdown? MemoryCluster.cluster config files now c = some (.channel, v)) :
    ∃ policy payload session, config.namingPolicy = .ok policy ∧
      config.index.loadPayload files = .ok payload ∧
      Session.start MemoryCluster.cluster policy now config.index.tuning payload
        config.sessionOptions c = .ok session ∧
      (session.lifecycle.created = false → v = session.writer.cluster) ∧
      (session.lifecycle.created = true →
        let tuning := config.index.tuning
        MemoryCluster.SettingsAt session.setup c.settingsHistory
          (tuning.windowUpdate.apply
            (tuning.restoreUpdate.apply (MemoryIndex.requested payload.settings))) v) := by
  obtain ⟨policy, payload, named, loaded, ⟨⟨⟩, -⟩ | ⟨-, -, -, session, started, opening⟩⟩ :=
    breakdown?_eq_some.1 h
  obtain ⟨w, lowered, rfl⟩ := Session.lowered_of_opening opening
  refine ⟨policy, payload, session, named, loaded, started, fun found => ?_, fun created => ?_⟩
  · unfold Writer.applySettings at lowered
    rw [if_neg (by simp [Session.setup, found])] at lowered
    cases lowered
    rfl
  · obtain ⟨setup, idle, born⟩ := Session.settings_of_start started created narrow
    have closed : session.writer.window = .closed {} := by rw [idle]; rfl
    have same : session.setup.tuning = config.index.tuning := by rw [setup]
    rw [← same] at born ⊢
    have lower :=
      (MemoryCluster.follows_settings (show session.setup.created = true from created)
        c.settingsHistory
        (MemoryIndex.requested payload.settings)).lower
    exact ((Writer.leads_applySettings lower).of_ok ⟨closed, born⟩ lowered).cluster

theorem Command.exit_report (r : Except RunError RunSummary) : (report r).exit ≤ 2 := by
  unfold report
  cases r with
  | error e => exact Nat.le_succ 1
  | ok summary =>
    show (if summary.failed then 2 else 0) ≤ 2
    split
    · exact Nat.le_refl 2
    · exact Nat.zero_le 2

/-- A run breaks down exactly if it comes to the wait for its cluster or to the opening of its
channel with numbers that are out of range there. -/
theorem breaksDown_iff (config : Config) (files : Files) (wire : Wire) (now : Instant) :
    breaksDown config files wire now = true ↔
      ∃ deployment, Deployment.ofConfig config.cluster wire = .ok deployment ∧
        ((¬ config.Awaitable ∧ ComesToWait Deployment.cluster config files now deployment) ∨
          (¬ config.index.tuning.limits.Openable ∧
            OpensChannel Deployment.cluster config files now deployment)) := by
  unfold breaksDown
  cases Deployment.ofConfig config.cluster wire with
  | error failure => simp
  | ok deployment => simp [breakdown?_isSome]

/-- An outcome is either that of a breakdown or the report of a run, whose code is another. -/
theorem Command.exit_of_breakdown {outcome : Outcome} {broken : Bool}
    {r : Except RunError RunSummary} (h : outcome = if broken then ⟨101, []⟩ else report r) :
    (outcome = ⟨101, []⟩ ∨ outcome = report r ∧ outcome.exit ≤ 2) ∧
    (outcome.exit = 101 ↔ broken = true) := by
  have few := exit_report r
  cases broken with
  | true =>
    rw [if_pos rfl] at h
    rw [h]
    exact ⟨.inl rfl, fun _ => rfl, fun _ => rfl⟩
  | false =>
    rw [if_neg Bool.false_ne_true] at h
    rw [h]
    exact ⟨.inr ⟨rfl, few⟩, fun exit => by omega, fun h => by cases h⟩

/-- **How the process of a configuration ends.** What the run comes to breaks down, which no report
does, exactly if it comes to the wait for its cluster or to the opening of its channel with numbers
that are out of range there. The process ends as its run does, or with the code of a breakdown
before that, if the name of the run cannot be written. -/
theorem Command.carryOut_exit (config : Config) (files : Files) (wire : Wire) (now : Instant) :
    let outcome := carryOut config files wire now
    let ended := ending config files wire now
    ((outcome = ⟨101, []⟩ ∨ outcome = report (run config files wire now) ∧ outcome.exit ≤ 2) ∧
      (outcome.exit = 101 ↔ ∃ deployment, Deployment.ofConfig config.cluster wire = .ok deployment ∧
        ((¬ config.Awaitable ∧ ComesToWait Deployment.cluster config files now deployment) ∨
          (¬ config.index.tuning.limits.Openable ∧
            OpensChannel Deployment.cluster config files now deployment)))) ∧
    (ended = ⟨101, []⟩ ∨ ended = report (run config files wire now) ∧ ended.exit ≤ 2) ∧
      (ended.exit = 101 ↔ breaksDownAtName config files wire = true ∨ outcome.exit = 101) := by
  intro outcome ended
  have here : outcome =
      if breaksDown config files wire now then ⟨101, []⟩ else report (run config files wire now) :=
        rfl
  have carried := exit_of_breakdown here
  have whole : ended =
      if breaksDownAtName config files wire || breaksDown config files wire now then ⟨101, []⟩
      else report (run config files wire now) := by
    show ending config files wire now = _
    unfold ending carryOut
    cases breaksDownAtName config files wire <;> rfl
  obtain ⟨reports, exits⟩ := exit_of_breakdown whole
  refine ⟨⟨carried.1, carried.2.trans (breaksDown_iff config files wire now)⟩, reports, ?_⟩
  rw [exits, carried.2, Bool.or_eq_true]

/-- **A configuration that is admitted breaks its run down.** It asks for more batches under way
than can be counted. -/
theorem Command.execute_breaks_down :
    let settings :=
      "[backend.InMemory]\n[index]\nname = \"books\"\nbulk_requests = 9223372036854775807\n" ++
      "[input]\nfile = \"records\"\n"
    let files : Files := Files.ofList [("ixl.toml", .content settings.toUTF8.toList),
      ("records", .content "\x7b\"id\":\"A\",\"doc\":1\x7d\n".toUTF8.toList)]
    (∃ config, loadConfig {} files [] = .ok config ∧ ¬ config.InRange) ∧
      execute [] files [] .down ⟨0, 0⟩ = ⟨101, []⟩ := by
  intro settings files
  let config : Config :=
    { cluster := .memory .green
      index := { name := "books", tuning := { bulkRequests := 9223372036854775807 } }
      inputFile := some "records" }
  have loaded : loadConfig {} files [] = .ok config := eq_ok_of_toOption (by decide +kernel)
  have narrow : ¬ config.index.tuning.limits.Openable := by decide +kernel
  exact ⟨⟨config, loaded, fun range => narrow range.2⟩, by decide +kernel⟩

end Reindex
