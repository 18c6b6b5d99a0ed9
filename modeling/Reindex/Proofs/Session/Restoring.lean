import Reindex.Cluster.Rest.Client
import Reindex.Proofs.Session.Bracketing

/-!
# Settings that are left low

A flush closes the window before it restores the managed settings. If the restore fails then so does
the flush, and the next one finds the window closed: it refreshes the index and works, and the
settings stay low. So the settings that a session leaves behind are those of the last window that
was opened: the configured ones if its restore was accepted, and the lowered ones if it was not.

Main statement: `Session.settings_left`, for every cluster and calls of which any may fail.
-/

namespace Reindex

variable {σ τ : Type} {setup : WriterSetup}

/-- The update that a window leaves an index with; none if it was not opened. -/
def WindowFate.leaves (tuning : Tuning) : WindowFate → Option SettingsUpdate
  | .refused => none
  | .restored => some tuning.restoreUpdate
  | .leftLow => some tuning.windowUpdate

/-- The last update that the cluster accepted for the index of a writer. -/
def lastAccepted (setup : WriterSetup) (trace : List ClusterEvent) : Option SettingsUpdate :=
  (acceptedFor setup.index (settingsEvents trace)).getLast?

/-- The last window that was opened decides. -/
theorem getLast?_accepted (fates : List WindowFate) :
    (acceptedFor setup.index (fates.flatMap (·.events setup))).getLast? =
      (fates.filterMap (·.leaves setup.tuning)).getLast? := by
  induction fates with
  | nil => rfl
  | cons fate fates ih =>
    have first : (acceptedFor setup.index (fate.events setup)).getLast? =
      (fate.leaves setup.tuning).toList.getLast? := by
      cases fate <;>
        simp [WindowFate.events, WindowFate.leaves, acceptedFor, WriterSetup.lowering,
          WriterSetup.restoring]
    have others : (fate :: fates).filterMap (·.leaves setup.tuning) =
        (fate.leaves setup.tuning).toList ++ fates.filterMap (·.leaves setup.tuning) := by
      cases fate <;> rfl
    rw [List.flatMap_cons, acceptedFor_append, others, List.getLast?_append, List.getLast?_append,
      ih, first]

/-- Behind the end of a window the last update is the restore. -/
theorem lastAccepted_of_windowEnd {base mid trace : List ClusterEvent}
    (he : WindowEnd setup base mid) (hb : Behind mid trace) :
    lastAccepted setup trace = some setup.tuning.restoreUpdate := by
  obtain ⟨calls, -, rfl⟩ := he
  obtain ⟨after, aside, rfl⟩ := hb
  have none : settingsEvents after = [] := List.filterMap_eq_nil_iff.2 fun e he =>
    (aside e he).settings
  have last : settingsEvents [⟨.updateSettings setup.index setup.tuning.restoreUpdate, true⟩,
      ⟨.refreshIndex setup.index, true⟩] = [setup.restoring true] := rfl
  unfold lastAccepted
  rw [settingsEvents_append, settingsEvents_append, none, List.append_nil, acceptedFor_append, last]
  simp [acceptedFor, WriterSetup.restoring]

/-- What a flush or an end that worked leaves of the managed settings, depending on whether it found
a window open. -/
structure SettingsLeft (setup : WriterSetup) (wasOpen : Bool) (before after : List ClusterEvent) :
    Prop where
  /-- They are those of the last window that was opened. -/
  last : ∃ fates : List WindowFate, settingsEvents after = fates.flatMap (·.events setup) ∧
    lastAccepted setup after = (fates.filterMap (·.leaves setup.tuning)).getLast?
  /-- A window that was open has been restored. -/
  restored : wasOpen = true → lastAccepted setup after = some setup.tuning.restoreUpdate
  /-- Where none was open nothing is done about the settings. -/
  left : wasOpen = false → settingsEvents after = settingsEvents before

theorem last_of_windows {allowed : WindowFate → Prop} {trace : List ClusterEvent}
    (h : Bracketed setup allowed false trace) :
    ∃ fates : List WindowFate, settingsEvents trace = fates.flatMap (·.events setup) ∧
      lastAccepted setup trace = (fates.filterMap (·.leaves setup.tuning)).getLast? := by
  obtain ⟨fates, -, same⟩ := h.windows
  have same : settingsEvents trace = fates.flatMap (·.events setup) :=
    same.trans (List.append_nil _)
  refine ⟨fates, same, ?_⟩
  unfold lastAccepted
  rw [same]
  exact getLast?_accepted fates

namespace Session

variable {cluster : Cluster σ τ}

/-- Without an open window neither a flush nor an end says anything of the settings. -/
theorem leads_conclude_left (tally : RunTally) (es : List SettingsEvent) (ending : Ending) :
    Leads (With setup (Writer.Closed tally fun c : Traced σ => settingsEvents c.trace = es))
      (conclude cluster.traced ending)
      (fun s => ∃ tally, s.writer.Closed tally fun c => settingsEvents c.trace = es)
      fun s => ∃ tally, s.writer.Closed tally fun c => settingsEvents c.trace = es := by
  have kept (t : List ClusterEvent) (e : ClusterEvent) (h : settingsEvents t = es) (he : e.Aside) :
      settingsEvents (t ++ [e]) = es := (settingsEvents_pass t he.settings).trans h
  have flushed : Leads (Writer.Closed tally fun c : Traced σ => settingsEvents c.trace = es)
      (Writer.flush cluster.traced setup) _ _ :=
    Writer.leads_flush_closed
      (Traced.leads_aside (P := (settingsEvents · = es)) _ (fun _ => ⟨rfl, rfl⟩) kept)
  have decides := cluster.traced_decides (P := (settingsEvents · = es)) kept
  exact leads_conclude_of (flushed.weaken (fun _ h => ⟨_, h⟩) fun _ h => ⟨_, h⟩)
    (fun w hw _ => ⟨_, hw⟩) decides ending

/-- **What becomes of the managed settings** in a session whose calls may fail, at any flush and at
any end that works. -/
theorem settings_left {policy : NamingPolicy} {now : Instant} {tuning : Tuning}
    {payload : IndexPayload} {options : SessionOptions} {s₀ : σ} {s : Session (Traced σ) τ}
    (hs : start cluster.traced policy now tuning payload options { state := s₀ } = .ok s)
    (created : s.lifecycle.created = true)
    (managed : (tuning.replicas.isSome || tuning.refreshInterval.isSome) = true)
    (calls : List Call) :
    let setup : WriterSetup := ⟨s.lifecycle.identity.index, tuning, true, options.writer⟩
    let u := carryOut cluster.traced calls s
    (∀ drained v, flush cluster.traced u = .ok drained v →
      SettingsLeft setup u.writer.window.isOpen u.writer.cluster.trace v.writer.cluster.trace) ∧
    ∀ ending report v, conclude cluster.traced ending u = .ok report v →
      SettingsLeft setup u.writer.window.isOpen u.writer.cluster.trace v.writer.cluster.trace := by
  intro setup u
  have hm : setup.manages = true := managed
  have ended : ∀ ending report v, conclude cluster.traced ending u = .ok report v →
      SettingsLeft setup u.writer.window.isOpen u.writer.cluster.trace v.writer.cluster.trace := by
    intro ending report v hv
    obtain ⟨same, idle, aside⟩ := traced_start hs
    rw [created] at same
    have follows := cluster.traced_follows hm (fun _ => True) trivial
    have kept : u.With setup (Writer.Under _) :=
      under_carryOut follows calls ⟨same, .closed ⟨idle, .of_aside aside⟩⟩
    obtain ⟨_, closed⟩ := (leads_conclude follows ending).of_ok kept hv
    refine ⟨last_of_windows closed.cluster, fun ho => ?_, fun ho => ?_⟩
    · have opened : u.With setup (Writer.Opened fun c => c.trace = u.writer.cluster.trace) :=
        ⟨kept.setup, ho, kept.writer.atRest, rfl⟩
      obtain ⟨_, -, mid, ends, behind⟩ := (leads_conclude_traced hm _ ending).of_ok opened hv
      exact lastAccepted_of_windowEnd ends behind
    · have resting := kept.writer
      cases resting with
      | closed hw =>
        obtain ⟨_, left⟩ := (leads_conclude_left _ _ ending).of_ok ⟨kept.setup, hw.window, rfl⟩ hv
        exact left.cluster
      | opened hw =>
        rw [hw.window] at ho
        cases ho
  refine ⟨fun drained v hv => ?_, ended⟩
  -- a flush leaves what an abort leaves
  have aborted : conclude cluster.traced .abort u = .ok none v := by
    have counted : abort cluster.traced u = .ok v.tally.counters v := bind_of_ok hv _
    exact bind_of_ok counted _
  exact ended .abort none v aborted

/-- A cluster that refuses to restore the settings behind the first window. -/
def refusesRestore : Wire :=
  let fine : Reply := .answer 200 "\x7b\x7d" false
  let missing : Reply := .answer 404 "" false
  let green : Reply := .answer 200 "\x7b\"status\":\"green\"\x7d" false
  let stored : Reply :=
    .answer 200 "\x7b\"items\":[\x7b\"index\":\x7b\"status\":201\x7d\x7d]\x7d" false
  let busy : Reply := .answer 503 "busy" false
  .up [missing, missing, fine, fine, green, fine, stored, busy, fine] []

/-- A client of the cluster. -/
def localClient : RestClient :=
  { base := { scheme := "http", host := some "es".toList, port := some 9200, path := ['/'] }
    generation := .typeless }

/-- A session on it, right after its start. -/
def refusedSession : Session (Traced Wire) Unit :=
  ofLifecycle ⟨.direct "books", {}, {}, .ensured, true⟩ {}
    (stateAfter (Lifecycle.start localClient.cluster.traced ⟨"books", none, false⟩ ⟨0, 0⟩ {}
      ⟨.null, .null⟩ {}
      { state := refusesRestore }))

theorem start_refusedSession :
    start localClient.cluster.traced ⟨"books", none, false⟩ ⟨0, 0⟩ {} ⟨.null, .null⟩ {}
      { state := refusesRestore } =
      .ok refusedSession :=
  start_of_lifecycle (eq_ok_of_answer (by decide +kernel))

/-- The session behind a flush that failed where it restores. -/
def unrestoredSession : Session (Traced Wire) Unit :=
  carryOut localClient.cluster.traced [.add ⟨.index, "a", some "1"⟩, .flush] refusedSession

/-- The next flush finds the window closed and works, and the settings stay low. -/
theorem flush_unrestoredSession :
    let after := flush localClient.cluster.traced unrestoredSession
    unrestoredSession.writer.window.isOpen = false ∧ answer? after = some true ∧
      settingsEvents (stateAfter after).writer.cluster.trace =
        [⟨"books", ⟨some 0, some "-1"⟩, true⟩, ⟨"books", ⟨some 1, some "30s"⟩, false⟩] := by
  decide +kernel

/-- What the flush leaves, as the theorem has it. -/
theorem settings_left_unrestored :
    let cluster := localClient.cluster.traced
    let after := flush cluster unrestoredSession
    start cluster ⟨"books", none, false⟩ ⟨0, 0⟩ {} ⟨.null, .null⟩ {} { state := refusesRestore } =
      .ok refusedSession ∧
      refusedSession.lifecycle.created = true ∧ after = .ok true (stateAfter after) ∧
      SettingsLeft ⟨"books", {}, true, {}⟩ false unrestoredSession.writer.cluster.trace
        (stateAfter after).writer.cluster.trace := by
  intro cluster after
  obtain ⟨closed, answered, -⟩ := flush_unrestoredSession
  have flushed : after = .ok true (stateAfter after) := eq_ok_of_answer answered
  have left :=
    (settings_left start_refusedSession rfl rfl [.add ⟨.index, "a", some "1"⟩, .flush]).1 true
      _ flushed
  rw [show (carryOut cluster _ refusedSession).writer.window.isOpen = false from closed] at left
  exact ⟨start_refusedSession, rfl, flushed, left⟩

/-- **Settings are left low**: a window was opened, a flush works behind the one that failed, and
the last update that the cluster accepted is the one for bulk windows. -/
theorem settings_left_low :
    let cluster := localClient.cluster.traced
    let setup : WriterSetup := ⟨"books", {}, true, {}⟩
    let after := flush cluster unrestoredSession
    start cluster ⟨"books", none, false⟩ ⟨0, 0⟩ {} ⟨.null, .null⟩ {} { state := refusesRestore } =
      .ok refusedSession ∧
      refusedSession.lifecycle.created = true ∧ after = .ok true (stateAfter after) ∧
      lastAccepted setup (stateAfter after).writer.cluster.trace = some setup.tuning.windowUpdate ∧
      setup.tuning.windowUpdate ≠ setup.tuning.restoreUpdate := by
  intro cluster setup after
  obtain ⟨-, answered, events⟩ := flush_unrestoredSession
  refine ⟨start_refusedSession, rfl, eq_ok_of_answer answered, ?_, by decide⟩
  unfold lastAccepted
  rw [events]
  decide

end Session

end Reindex
