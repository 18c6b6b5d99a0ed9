import Reindex.Proofs.Run.Feed
import Reindex.Proofs.Session.Aliases
import Reindex.Proofs.Session.Bracketing
import Reindex.Proofs.Session.Prompt
import Reindex.Proofs.Session.Settings

/-!
# Runs that break off

A record file that cannot be read to its end ends the run with an error, wherever that happens: with
operations in the buffer, with batches under way. The session is given up then, but what it took is
not. On a cluster in memory with nothing in the way the operations of the lines before are all
carried out and booked, an index that was made has its settings again, and no alias has moved.

Main statement: `run_broken_off`. It rests on `Session.broken_off`, for a session that is given up
behind any operations.
-/

namespace Reindex

variable {σ τ : Type}

/-- Where the records cannot be read to their end the session is given up. -/
theorem work_of_feed_error {cluster : Cluster σ τ} {config : Config} {files : Files}
    {s u : Session σ τ} {e : RunError} (fed : feed cluster files config.inputFile s = .error e u) :
    work cluster config files s = .error e (stateAfter (Session.abort cluster u)) := by
  unfold work
  rw [fed]

/-- What ends the work of a session ends the run. -/
theorem runWith_of_work_error {cluster : Cluster σ τ} {config : Config} {files : Files}
    {now : Instant} {c : σ} {policy : NamingPolicy} {payload : IndexPayload} {s v : Session σ τ}
    {e : RunError} (named : config.namingPolicy = .ok policy)
    (loaded : config.index.loadPayload files = .ok payload)
    (started : Session.start cluster policy now config.index.tuning payload config.sessionOptions
      c = .ok s)
    (worked : work cluster config files s = .error e v) :
    runWith cluster config files now c = .error e v.writer.cluster := by
  unfold runWith
  rw [named, loaded]
  dsimp only
  rw [started]
  dsimp only
  rw [worked]

namespace Session

/-- What a session leaves that was given up behind these operations. -/
structure BrokenOff (tuning : Tuning) (payload : IndexPayload) (ops : List Operation)
    (s v : Session (Traced MemoryCluster) Unit) : Prop where
  /-- The start sends nothing. -/
  unsent : sentCalls s.writer.cluster.trace = []
  /-- The operations are sent, answered and carried out, and nothing else is. -/
  carried : ∃ calls, Carried s.lifecycle.identity.index ops calls s.writer.cluster
    v.writer.cluster v.tally
  booked : v.tally.counters.total = ops.length
  /-- The managed settings are as configured, the others as they were asked for; the replicas are
  counted in 32 bits. -/
  settings : s.lifecycle.created = true → (∀ n ∈ tuning.replicas, n < UInt32.size) →
    MemoryCluster.seen MemoryCluster.effective s.lifecycle.identity.index v.writer.cluster.state =
      some (tuning.restoreUpdate.apply (MemoryIndex.requested payload.settings))
  aliases : ∀ index, v.writer.cluster.state.aliasesOf index = s.writer.cluster.state.aliasesOf index

variable {policy : NamingPolicy} {now : Instant} {tuning : Tuning} {payload : IndexPayload}
    {options : SessionOptions} {c : MemoryCluster} {s u : Session (Traced MemoryCluster) Unit}

/-- Behind a session that is given up the managed settings are as configured. -/
theorem settings_of_abort
    (started : start MemoryCluster.cluster.traced policy now tuning payload options ⟨c, []⟩ = .ok s)
    (created : s.lifecycle.created = true) (narrow : ∀ n ∈ tuning.replicas, n < UInt32.size)
    {calls : List Call} (performed : performAll MemoryCluster.cluster.traced calls s = .ok () u) :
    MemoryCluster.seen MemoryCluster.effective s.lifecycle.identity.index
        (stateAfter (abort MemoryCluster.cluster.traced u)).writer.cluster.state =
      some (tuning.restoreUpdate.apply (MemoryIndex.requested payload.settings)) := by
  obtain ⟨l, w, hl, rfl⟩ := ofLifecycle_of_start started
  have bare := start_of_lifecycle (Lifecycle.start_untraced hl)
  obtain ⟨same, -, settings⟩ := settings_of_start bare created narrow
  let setup : WriterSetup :=
    (ofLifecycle l options.writer w : Session (Traced MemoryCluster) Unit).setup
  have same : setup = ⟨l.identity.index, tuning, true, options.writer⟩ := same
  have follows :=
    (MemoryCluster.follows_settings (show setup.created = true from created) c.settingsHistory
    (MemoryIndex.requested payload.settings)).traced
  rw [show setup.tuning = tuning by rw [same]] at follows
  have kept := (leads_performAll follows calls).of_ok ⟨rfl, .closed ⟨rfl, settings⟩⟩ performed
  obtain ⟨tally, closed⟩ := (leads_conclude follows .abort).stateAfter kept
  rw [conclude_abort] at closed
  exact closed.cluster.effective

/-- Nor has any alias moved. -/
theorem aliases_of_abort {calls : List Call} (rest : s.writer.window.AtRest)
    (performed : performAll MemoryCluster.cluster.traced calls s = .ok () u) (index : String) :
    (stateAfter (abort MemoryCluster.cluster.traced u)).writer.cluster.state.aliasesOf index =
      s.writer.cluster.state.aliasesOf index := by
  obtain ⟨h, adding, rest', -⟩ := course_performAll rest performed
  obtain ⟨g, flushing, -⟩ := course_flush MemoryCluster.cluster.traced rest'
  rw [stateAfter_abort]
  have still : s.writer.cluster.state.AliasesAre s.writer.cluster.state.aliasesOf := fun _ => rfl
  exact Writer.steady MemoryCluster.steady_aliases.traced still (adding.trans flushing) index

/-- **A session that is given up** behind some operations leaves nothing undone. -/
theorem broken_off
    (started : start MemoryCluster.cluster.traced policy now tuning payload options ⟨c, []⟩ = .ok s)
    (swift : c.Swift) (some : 0 < options.writer.flushTimeout) (ops : List Operation) :
    ∃ u, performAll MemoryCluster.cluster.traced (ops.map .add) s = .ok () u ∧
      BrokenOff tuning payload ops s (stateAfter (abort MemoryCluster.cluster.traced u)) := by
  obtain ⟨-, idle, aside⟩ := traced_start started
  obtain ⟨l, w, hl, rfl⟩ := ofLifecycle_of_start started
  have bare := Lifecycle.start_untraced hl
  have still : w.state.Swift := by
    rw [Lifecycle.indices_of_start (Lifecycle.startedInMemory_of_ok bare)]
    exact ⟨⟨swift.quiet.rejections, swift.quiet.transportFailures⟩, swift.latency⟩
  obtain ⟨u, v, calls, performed, flushed, carried⟩ :=
    carried_load l some (Lifecycle.present_of_start bare) still ops
  have after : stateAfter (abort MemoryCluster.cluster.traced u) = v := by
    rw [stateAfter_abort, flushed]
    rfl
  have atRest :
    (ofLifecycle l options.writer w : Session (Traced MemoryCluster) Unit).writer.window.AtRest :=
      trivial
  refine ⟨u, performed, ?_⟩
  rw [after]
  exact
    { unsent := (calls_of_no_bulk fun e he => (aside e he).bulk).1
      carried := ⟨calls, carried⟩
      booked := carried.booked
      settings := fun created narrow => after ▸ settings_of_abort started created narrow performed
      aliases := fun index => after ▸ aliases_of_abort atRest performed index }

end Session

open RecordSource (Reads readLine faultOf operations)

/-- **A record file that breaks off** leaves a consistent cluster. Behind an open that worked the
run ends with an error that names the line; the operations of the lines before are sent, answered
and booked, each once, and no others; an index that was made has its settings as configured; all
aliases are what they were behind the open. -/
theorem run_broken_off {c : MemoryCluster} (swift : c.Swift) {config : Config}
    (patient : 1 ≤ config.runtime.flushTimeoutSecs) {files : Files} {now : Instant}
    {policy : NamingPolicy} {payload : IndexPayload} {s : Session (Traced MemoryCluster) Unit}
    (named : config.namingPolicy = .ok policy)
    (loaded : config.index.loadPayload files = .ok payload)
    (started : Session.start MemoryCluster.cluster.traced policy now config.index.tuning payload
      config.sessionOptions
      ⟨c, []⟩ = .ok s)
    {path : String} {source : RecordSource} {before after : List (Option String)}
    {line : Option String} {reason : Option LineFault} (input : config.inputFile = some path)
    (opened : RecordSource.ofFile? path (files path) = some source)
    (split : source.lines = before ++ line :: after) (reads : ∀ line ∈ before, Reads line)
    (broken : readLine line = .error reason) :
    ∃ v, work MemoryCluster.cluster.traced config files s = .error
      (.record (faultOf path before.length reason)) v ∧
      runWith MemoryCluster.cluster.traced config files now ⟨c, []⟩ =
        .error (.record (faultOf path before.length reason)) v.writer.cluster ∧
      s.BrokenOff config.index.tuning payload (operations before) v := by
  have some : 0 < config.sessionOptions.writer.flushTimeout := Nat.mul_pos patient (by decide)
  obtain ⟨u, performed, left⟩ := Session.broken_off started swift some (operations before)
  have fed := feed_of_broken opened split reads broken performed
  rw [← input] at fed
  have worked := work_of_feed_error fed
  exact ⟨_, worked, runWith_of_work_error named loaded started worked, left⟩

/-- The third line is no record, and a record is behind it. The index in service stays in
service. -/
theorem run_broken_off_oops :
    let cluster := MemoryCluster.cluster.traced
    let config : Config :=
      { cluster := .memory .green, index := { name := "books", timeWindow := some "'2'" },
        inputFile := some "a" }
    let first := "\x7b\"id\":\"a\",\"doc\":1\x7d"
    let files : Files := fun _ => .content (first ++ "\n\noops\n" ++ first).toUTF8.toList
    let c := Session.shelved "books1"
    let left := (stateAfter (runWith cluster config files ⟨0, 0⟩ ⟨c, []⟩)).state
    c.Swift ∧ (∃ s v : Session (Traced MemoryCluster) Unit,
      runWith cluster config files ⟨0, 0⟩ ⟨c, []⟩ =
        .error (.record (.badRecord "a" 3 .notAnObject)) v.writer.cluster ∧
      s.BrokenOff config.index.tuning ⟨.object [], .object []⟩ [⟨.index, "a", some "1"⟩] v) ∧
      left.getDocument "books2" "a" = some "1" ∧ left.carriers "books" = ["books1"] ∧
      MemoryCluster.seen MemoryCluster.effective "books2" left = some (1, "30s") := by
  intro cluster config first files c left
  let l : Lifecycle :=
    ⟨.behind "books" "books2", config.index.tuning, config.sessionOptions.lifecycle, .ensured, true⟩
  have swift : c.Swift := ⟨⟨rfl, rfl⟩, rfl⟩
  have named : config.namingPolicy = .ok ⟨"books", some ⟨"'2'", [.literal ['2']]⟩, false⟩ :=
    eq_ok_of_toOption (by decide +kernel)
  have loaded : config.index.loadPayload files = .ok ⟨.object [], .object []⟩ :=
    eq_ok_of_toOption (by decide +kernel)
  have started : Session.start cluster ⟨"books", some ⟨"'2'", [.literal ['2']]⟩, false⟩
    ⟨0, 0⟩ config.index.tuning
      ⟨.object [], .object []⟩ config.sessionOptions ⟨c, []⟩ = .ok
        (.ofLifecycle l config.sessionOptions.writer _) :=
    Session.start_of_lifecycle (eq_ok_of_answer (by decide +kernel))
  have opened : RecordSource.ofFile? "a" (files "a") = some ⟨"a",
    [some first, some "", some "oops", some first], 0⟩ := by
    decide +kernel
  have reads : ∀ line ∈ [some first, some ""], Reads line := by
    intro line hl
    rcases List.mem_pair.1 hl with rfl | rfl
    · exact ⟨some ⟨.index, "a", some "1"⟩, by decide +kernel⟩
    · exact ⟨none, by decide +kernel⟩
  have broken : readLine (some "oops") = .error (some .notAnObject) := by decide +kernel
  have before : operations [some first, some ""] = [⟨.index, "a", some "1"⟩] := by decide +kernel
  obtain ⟨v, -, ended, brokenOff⟩ :=
    run_broken_off swift (by decide) named loaded started rfl opened rfl reads broken
  rw [before] at brokenOff
  exact ⟨swift, ⟨_, v, ended, brokenOff⟩, by decide +kernel, by decide +kernel, by decide +kernel⟩

end Reindex
