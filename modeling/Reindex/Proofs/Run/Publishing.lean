import Reindex.CommandLine
import Reindex.Proofs.Run.Feed
import Reindex.Proofs.Session.Publishing

/-!
# Publishing by a run

A run is a session with a record source. Where the source cannot be read to its end the session is
aborted, and the alias stays; otherwise it is closed.

Main statement: `publishes_once`, for every session and every run against every cluster.
-/

namespace Reindex

variable {σ τ : Type}

open Session (Recorded)

/-! ## The work of a session -/

/-- A session whose feed failed leaves the record as it is. -/
theorem updates_work_of_feed {cluster : Cluster σ τ} {config : Config} {files : Files}
    {us : List AliasUpdate} {s u : Session (Watched σ) τ} {e : RunError} (hs : Recorded us s)
    (hf : feed cluster.watched files config.inputFile s = .error e u) :
    (stateAfter (work cluster.watched config files s)).writer.cluster.updates = us := by
  have fed := (keeps_feed (fun op => Session.keeps_add cluster op us) files
    config.inputFile).of_error hs hf
  unfold work
  rw [hf]
  exact (Session.keeps_abort cluster us u fed).updates

theorem Published.adaptExcept {ε ε' ρ : Type} {us : List AliasUpdate} {switch : Bool}
    {updates : ρ → List AliasUpdate} {x : EStateM ε ρ RunSummary} {s : ρ} (f : ε → ε')
    (h : Published us switch updates (x s)) :
    Published us switch updates (x.adaptExcept f s) := by
  unfold EStateM.adaptExcept
  cases hx : x s with
  | ok summary v =>
    rw [hx] at h
    refine ⟨h.once, ?_, ?_⟩
    · rintro _ _ ⟨⟩
      exact h.moved summary v rfl
    · rintro _ _ ⟨⟩
      exact h.failed summary v rfl
  | error e v =>
    rw [hx] at h
    exact ⟨h.once, by rintro _ _ ⟨⟩, by rintro _ _ ⟨⟩⟩

theorem published_work (cluster : Cluster σ τ) (config : Config) (files : Files)
    {us : List AliasUpdate} {s : Session (Watched σ) τ} (hs : Recorded us s) :
    Published us config.runtime.switchAlias (·.writer.cluster.updates)
      (work cluster.watched config files s) := by
  have feeding :=
    keeps_feed (fun op => Session.keeps_add (τ := τ) cluster op us) files config.inputFile
  have flushing := Session.keeps_flush (τ := τ) cluster us
  unfold work
  cases hf : feed cluster.watched files config.inputFile s with
  | error e u =>
    exact .of_failed e (Session.keeps_abort cluster us u (feeding.of_error hs hf)).updates
  | ok a u =>
    have fed := feeding.of_ok hs hf
    refine .adaptExcept RunError.index ?_
    cases hd : Session.flush cluster.watched u with
    | error e v =>
      rw [bind_of_error hd]
      exact .of_failed e (flushing.of_error fed hd).updates
    | ok drained v =>
      have flushed := flushing.of_ok fed hd
      rw [bind_of_ok hd]
      have closing := (Session.closing cluster config.runtime.switchAlias flushed.atRest).published
      rwa [flushed.updates] at closing

/-! ## Runs -/

/-- What a run leaves in a record of alias updates. -/
theorem published_runWith (cluster : Cluster σ τ) (config : Config) (files : Files) (now : Instant)
    (w : Watched σ) :
    Published w.updates config.runtime.switchAlias Watched.updates
      (runWith cluster.watched config files now w) := by
  unfold runWith
  split
  · exact .of_failed _ rfl
  · rename_i policy hp
    split
    · exact .of_failed _ rfl
    · rename_i payload hl
      have starting := Lifecycle.keeps_start cluster policy now config.index.tuning payload
        config.sessionOptions.lifecycle w.updates
      split
      · rename_i e v hs
        refine .of_failed _ ?_
        unfold Session.start at hs
        split at hs
        · cases hs
        · rename_i hx
          cases hs
          exact starting.of_error rfl hx
      · rename_i s hs
        have worked := published_work cluster config files (Session.recorded_start hs)
        split
        · rename_i summary v hw
          rw [hw] at worked
          refine ⟨worked.once, ?_, ?_⟩
          · rintro _ _ ⟨⟩
            exact worked.moved summary v rfl
          · rintro _ _ ⟨⟩
            exact worked.failed summary v rfl
        · rename_i e v hw
          rw [hw] at worked
          exact ⟨worked.once, by rintro _ _ ⟨⟩, by rintro _ _ ⟨⟩⟩

/-- A run that was begun on a cluster `w`, and how it ended. -/
structure RunPublishesOnce (cluster : Cluster σ τ) (config : Config) (files : Files) (now : Instant)
    (w : Watched σ) (r : EStateM.Result RunError (Watched σ) RunSummary) : Prop where
  once : (stateAfter r).updates = w.updates ∨
    ∃ actions ok, (stateAfter r).updates = w.updates ++ [⟨actions, ok⟩] ∧
      config.runtime.switchAlias = true
  moved : (∃ summary v, r = .ok summary v ∧ summary.outcome.isSwitched = true) ↔
    ∃ actions, (stateAfter r).updates = w.updates ++ [⟨actions, true⟩]
  /-- A run that reports failures and exits with 2 did not find or put the alias in place. -/
  failed : ∀ summary v, r = .ok summary v → (Command.report (.ok summary)).exit = 2 →
    summary.outcome.isSwitched = false ∧ summary.outcome ≠ .alreadyCurrent
  /-- A run whose feed failed leaves the alias alone. -/
  feed : ∀ policy payload (s u : Session (Watched σ) τ) e, config.namingPolicy = .ok policy →
    config.index.loadPayload files = .ok payload →
    Session.start cluster.watched policy now config.index.tuning payload config.sessionOptions
      w = .ok s →
    feed cluster.watched files config.inputFile s = .error e u → (stateAfter r).updates = w.updates

theorem runPublishesOnce (cluster : Cluster σ τ) (config : Config) (files : Files) (now : Instant)
    (w : Watched σ) :
    RunPublishesOnce cluster config files now w (runWith cluster.watched config files now w) := by
  have published := published_runWith cluster config files now w
  refine ⟨?_, published.moved_iff, ?_, ?_⟩
  · exact published.once.imp id fun ⟨actions, told, asked⟩ => ⟨actions, _, told, asked⟩
  · intro summary v hr hexit
    cases hf : summary.failed with
    | true => exact published.failed summary v hr hf
    | false => simp [Command.report, hf] at hexit
  · intro policy payload s u e hp hl hs hf
    have left := updates_work_of_feed (Session.recorded_start hs) hf
    unfold runWith
    simp only [hp, hl, hs]
    split <;> rename_i hw <;> rw [hw] at left <;> exact left

/-- **The gate in front of publishing.** Every session, whatever it was asked for and whatever of it
failed, and every run asks its cluster for one alias update at most, at the end and behind the
gate. -/
theorem publishes_once (cluster : Cluster σ τ) :
    (∀ (policy : NamingPolicy) (now : Instant) (tuning : Tuning) (payload : IndexPayload)
      (options : SessionOptions)
      (w : Watched σ) (s : Session (Watched σ) τ) (calls : List Session.Call)
        (ending : Session.Ending),
      Session.start cluster.watched policy now tuning payload options w = .ok s →
      s.PublishesOnce cluster w.updates (Session.carryOut cluster.watched calls s) ending) ∧
    ∀ (config : Config) (files : Files) (now : Instant) (w : Watched σ),
      RunPublishesOnce cluster config files now w (runWith cluster.watched config files now w) := by
  refine ⟨?_, runPublishesOnce cluster⟩
  intro policy now tuning payload options w s calls ending hs
  have idle := (Session.start_idle hs).1
  obtain ⟨h, hc, -, hl⟩ :=
    Session.course_carryOut cluster.watched calls (s := s) (by rw [idle]; trivial)
  exact Session.publishesOnce cluster ending idle hc hl
    (Session.recorded_carryOut calls (Session.recorded_start hs))

/-- A first session publishes its index. -/
theorem publishes_once_books :
    let cluster := MemoryCluster.cluster
    let policy : NamingPolicy := ⟨"books", some ⟨"'2'", [.literal ['2']]⟩, false⟩
    let calls : List Session.Call := [.add ⟨.index, "a", some "1"⟩]
    ∃ s, Session.start cluster.watched policy ⟨0, 0⟩ {} ⟨.null, .null⟩ {} ⟨{}, []⟩ = .ok s ∧
      (stateAfter (Session.conclude cluster.watched (.close true)
        (Session.carryOut cluster.watched calls s))).record =
        [⟨[.add "books2" "books" none], true⟩] ∧
      s.PublishesOnce cluster [] (Session.carryOut cluster.watched calls s) (.close true) := by
  intro cluster policy calls
  let started := Session.start cluster.watched policy ⟨0, 0⟩ {} ⟨.null, .null⟩ {} ⟨{}, []⟩
  have told : (started.toOption.map fun s =>
    (stateAfter (Session.conclude cluster.watched (.close true)
      (Session.carryOut cluster.watched calls s))).record) =
        some [⟨[.add "books2" "books" none], true⟩] := by
    decide +kernel
  cases hs : started with
  | error e =>
    rw [hs] at told
    cases told
  | ok s =>
    rw [hs] at told
    refine ⟨s, hs, Option.some.inj told, ?_⟩
    exact (publishes_once cluster).1 policy _ _ _ _ _ s calls (.close true) hs

end Reindex
