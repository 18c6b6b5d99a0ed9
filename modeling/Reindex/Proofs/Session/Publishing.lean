import Reindex.Proofs.Lifecycle.Gate
import Reindex.Proofs.Session.Conservation

/-!
# Publishing by a session

Nothing that a session does before its end asks for an alias update. Its closing asks for one at
most, behind the gate, and says that the alias moved if and only if that update worked.

Main statement: `Session.closing`.
-/

namespace Reindex

variable {σ τ : Type}

/-- What the end of a run leaves in a record of alias updates: nothing, and then the alias did not
move; or one alias update, which worked if and only if the alias moved. -/
structure Published {ε ρ : Type} (us : List AliasUpdate) (switch : Bool)
    (updates : ρ → List AliasUpdate) (r : EStateM.Result ε ρ RunSummary) : Prop where
  once : updates (stateAfter r) = us ∨
    ∃ actions, updates (stateAfter r) = us ++ [⟨actions, worked r⟩] ∧ switch = true
  moved : ∀ summary v, r = .ok summary v → (summary.outcome.isSwitched = true ↔ updates v ≠ us)
  failed : ∀ summary v, r = .ok summary v → summary.failed = true →
    summary.outcome.isSwitched = false ∧ summary.outcome ≠ .alreadyCurrent

namespace Published

variable {ε ρ : Type} {us : List AliasUpdate} {switch : Bool} {updates : ρ → List AliasUpdate}

theorem of_failed (e : ε) {v : ρ} (hv : updates v = us) :
    Published us switch updates (.error e v) where
  once := .inl hv
  moved := by rintro summary v ⟨⟩
  failed := by rintro summary v ⟨⟩

/-- The alias moved exactly where the one update worked. -/
theorem moved_iff {r : EStateM.Result ε ρ RunSummary} (h : Published us switch updates r) :
    (∃ summary v, r = .ok summary v ∧ summary.outcome.isSwitched = true) ↔
      ∃ actions, updates (stateAfter r) = us ++ [⟨actions, true⟩] := by
  constructor
  · rintro ⟨summary, v, rfl, ho⟩
    rcases h.once with same | ⟨actions, told, -⟩
    · exact absurd same ((h.moved summary v rfl).1 ho)
    · exact ⟨actions, told⟩
  · rintro ⟨actions, told⟩
    have more : updates (stateAfter r) ≠ us := by simp [told]
    rcases h.once with same | ⟨actions', told', -⟩
    · exact absurd same more
    · rw [told] at told'
      have ok : worked r = true := by
        simpa using (congrArg (List.map AliasUpdate.worked) told').symm
      obtain ⟨summary, hr⟩ := eq_ok_of_worked ok
      exact ⟨summary, _, hr, (h.moved summary _ hr).2 more⟩

end Published

namespace Session

/-! ## Before the end -/

/-- A session at rest, and what is in the record. -/
structure Recorded (us : List AliasUpdate) (s : Session (Watched σ) τ) : Prop where
  atRest : s.writer.window.AtRest
  updates : s.writer.cluster.updates = us

theorem recorded_start {cluster : Cluster σ τ} {policy : NamingPolicy} {now : Instant}
    {tuning : Tuning} {payload : IndexPayload} {options : SessionOptions} {w : Watched σ}
    {s : Session (Watched σ) τ}
    (h : start cluster.watched policy now tuning payload options w = .ok s) :
    Recorded w.updates s := by
  have starting :=
    Lifecycle.keeps_start cluster policy now tuning payload options.lifecycle w.updates
  obtain ⟨l, v, hl, rfl⟩ := ofLifecycle_of_start h
  exact ⟨trivial, starting.of_ok rfl hl⟩

theorem Recorded.of_course {cluster : Cluster σ τ} {us : List AliasUpdate}
    {s u : Session (Watched σ) τ} {h : History} (hs : Recorded us s)
    (hc : Course (Writer.Move cluster.watched) s.writer h u.writer) (hr : u.writer.window.AtRest) :
    Recorded us u :=
  ⟨hr, Writer.steady (cluster.watched_steady us) hs.updates hc⟩

theorem recorded_carryOut {cluster : Cluster σ τ} {us : List AliasUpdate} (calls : List Call)
    {s : Session (Watched σ) τ} (hs : Recorded us s) :
    Recorded us (carryOut cluster.watched calls s) := by
  obtain ⟨h, hc, hr, -⟩ := course_carryOut cluster.watched calls hs.atRest
  exact hs.of_course hc hr

theorem keeps_add (cluster : Cluster σ τ) (op : Operation) (us : List AliasUpdate) :
    Keeps (Recorded us) (add cluster.watched op) := by
  intro s hs
  obtain ⟨h, hc, hr, -⟩ := course_add cluster.watched op hs.atRest
  exact hs.of_course hc hr

theorem keeps_flush (cluster : Cluster σ τ) (us : List AliasUpdate) :
    Keeps (Recorded us) (flush (τ := τ) cluster.watched) := by
  intro s hs
  obtain ⟨h, hc, -, hclosed, -⟩ := course_flush cluster.watched hs.atRest
  exact hs.of_course hc (by rw [hclosed]; trivial)

theorem keeps_abort (cluster : Cluster σ τ) (us : List AliasUpdate) :
    Keeps (Recorded us) (abort (τ := τ) cluster.watched) :=
  .bind (keeps_flush cluster us) fun _ => .bind (fun _ hs => hs) fun _ => .pure _

theorem recorded_settle (cluster : Cluster σ τ) {us : List AliasUpdate} {s : Session (Watched σ) τ}
    (hs : Recorded us s) : Recorded us (stateAfter (settle cluster.watched s)) := by
  obtain ⟨h, hc, -, hclosed, -⟩ := course_settle cluster.watched hs.atRest
  exact hs.of_course hc (by rw [hclosed]; trivial)

/-! ## The end -/

/-- What the closing of a session leaves in the record, and what is behind an alias update. -/
structure Closing (cluster : Cluster σ τ) (switch : Bool) (s : Session (Watched σ) τ)
    (r : EStateM.Result Error (Session (Watched σ) τ) RunSummary) : Prop where
  published : Published s.writer.cluster.updates switch (·.writer.cluster.updates) r
  gate : (stateAfter r).writer.cluster.updates ≠ s.writer.cluster.updates →
    s.lifecycle.Gate cluster.watched (stateAfter (settle cluster.watched s)).tally
      (stateAfter (settle cluster.watched s)).writer.cluster

/-- A settled session whose alias is decided on. -/
theorem closing_decided (cluster : Cluster σ τ) {s d : Session (Watched σ) τ} {t : RunTally}
    (hs : settle cluster.watched s = .ok () d)
    (hu : d.writer.cluster.updates = s.writer.cluster.updates) (hl : d.lifecycle = s.lifecycle)
    (hw : d.writer.window = .closed t) :
    Closing cluster true s (close cluster.watched true s) := by
  have turned := Writer.window_takeTurn cluster.watched hw
  have gated := Lifecycle.switchIndex_gated cluster d.lifecycle d.tally
    (d.writer.takeTurn cluster.watched).cluster
  have decided := decide_true cluster.watched d
  dsimp only at decided
  rw [Writer.cluster_takeTurn cluster.watched hw] at gated decided
  have after : stateAfter (settle cluster.watched s) = d := congrArg stateAfter hs
  rw [close_eq, bind_of_ok hs]
  cases hx : d.lifecycle.switchIndex cluster.watched d.tally d.writer.cluster with
  | error e w =>
    rw [hx] at gated decided
    rw [bind_of_error decided]
    refine ⟨⟨?_, by rintro summary v ⟨⟩, by rintro summary v ⟨⟩⟩, ?_⟩
    · rw [← hu]
      exact gated.updates.imp id fun ⟨actions, told, _⟩ => ⟨actions, told, rfl⟩
    · rw [← hu, after, ← hl]
      exact gated.gate
  | ok x w =>
    rw [hx] at gated decided
    rw [bind_of_ok decided]
    refine ⟨⟨?_, ?_, ?_⟩, ?_⟩
    · rw [← hu]
      exact gated.updates.imp id fun ⟨actions, told, _⟩ => ⟨actions, told, rfl⟩
    · rw [← hu]
      rintro summary v ⟨⟩
      exact gated.switched x w rfl
    · rintro summary v ⟨⟩ hf
      have failed : d.tally.failed = true := by
        rw [show d.tally = t from congrArg BulkWindow.tally hw]
        exact (congrArg (fun window => (BulkWindow.tally window).failed) turned).symm.trans hf
      exact gated.of_unclean rfl fun clean => by cases failed.symm.trans clean.unmarked
    · rw [← hu, after, ← hl]
      exact gated.gate

/-- **The closing of a session asks for one alias update at most, behind the gate.** -/
theorem closing (cluster : Cluster σ τ) (switch : Bool) {s : Session (Watched σ) τ}
    (hs : s.writer.window.AtRest) :
    Closing cluster switch s (close cluster.watched switch s) := by
  obtain ⟨h, hc, -, hw, hl, -⟩ := course_settle cluster.watched hs
  have kept := (recorded_settle cluster ⟨hs, rfl⟩).updates
  cases hd : settle cluster.watched s with
  | error e d =>
    rw [hd] at kept
    rw [close_eq, bind_of_error hd]
    exact ⟨.of_failed e kept, fun more => absurd kept more⟩
  | ok a d =>
    rw [hd] at hw hl kept
    cases switch with
    | true => exact closing_decided cluster hd kept hl hw
    | false =>
      rw [close_eq, bind_of_ok hd, bind_of_ok (decide_false cluster.watched d)]
      have kept : d.writer.cluster.updates = s.writer.cluster.updates := kept
      refine ⟨⟨.inl kept, ?_, ?_⟩, fun more => absurd kept more⟩
      · rintro summary v ⟨⟩
        simp [summary, SwitchOutcome.isSwitched, kept]
      · rintro summary v ⟨⟩ -
        exact ⟨rfl, fun h => by cases h⟩

/-! ## Whole sessions -/

/-- The alias updates that the cluster of a session was asked for. -/
def record (s : Session (Watched σ) τ) : List AliasUpdate := s.writer.cluster.updates

/-- A session `s` that came to `u` with the record as it was, and how it ends there. -/
structure PublishesOnce (cluster : Cluster σ τ) (us : List AliasUpdate)
    (s u : Session (Watched σ) τ) (ending : Ending) : Prop where
  before : u.record = us
  once : (stateAfter (conclude cluster.watched ending u)).record = us ∨
    ∃ actions ok, (stateAfter (conclude cluster.watched ending u)).record = us ++ [⟨actions, ok⟩]
  /-- An alias update comes from a closing that was asked to move the alias, behind the gate. -/
  gate : (stateAfter (conclude cluster.watched ending u)).record ≠ us →
    ending = .close true ∧
      s.lifecycle.Gate cluster.watched (stateAfter (settle cluster.watched u)).tally
      (stateAfter (settle cluster.watched u)).writer.cluster
  /-- The report says that the alias moved exactly where the one update worked. -/
  moved : (∃ summary v, conclude cluster.watched ending u = .ok (some summary) v ∧
      summary.outcome.isSwitched = true) ↔
    ∃ actions, (stateAfter (conclude cluster.watched ending u)).record = us ++ [⟨actions, true⟩]
  failed : ∀ summary v, conclude cluster.watched ending u = .ok (some summary) v →
    summary.failed = true →
    summary.outcome.isSwitched = false ∧ summary.outcome ≠ .alreadyCurrent
  /-- The session followed a course to the ledger that the gate looks at. -/
  course : ∃ h : History,
    Course (Writer.Move cluster.watched) s.writer h (stateAfter (settle cluster.watched u)).writer
  /-- A course with a booked failure, or without a document that was written, ends without an
  update. -/
  booked : ∀ h : History,
    Course (Writer.Move cluster.watched) s.writer h (stateAfter (settle cluster.watched u)).writer →
    (∃ l ∈ h.booked, l.fails = true) ∨ (∀ r ∈ h.booked.flatMap Landing.items, r.isWritten = false) →
    (stateAfter (conclude cluster.watched ending u)).record = us

/-- A ledger that is clean booked no failure, and a document that was written. -/
theorem clean_of_booked {t : RunTally} {ls : List Landing} (ht : t = ls.foldl RunTally.settle {})
    (hc : t.Clean) :
    (∀ l ∈ ls, l.fails = false) ∧ ∃ r ∈ ls.flatMap Landing.items, r.isWritten = true := by
  have unmarked := hc.unmarked
  have succeeded := hc.succeeded
  rw [ht, RunTally.failed_foldl_settle] at unmarked
  rw [ht, RunTally.counters_foldl_settle, RunCounters.zero_plus] at succeeded
  refine ⟨?_, List.countP_pos_iff.1 succeeded⟩
  simpa using unmarked

theorem record_abort (cluster : Cluster σ τ) {us : List AliasUpdate} {u : Session (Watched σ) τ}
    (hu : Recorded us u) :
    (stateAfter (conclude cluster.watched .abort u)).record = us :=
  (congrArg record (stateAfter_discard (abort cluster.watched) none u)).trans
    (keeps_abort cluster us u hu).updates

theorem report_abort (cluster : Cluster σ τ) {u v : Session (Watched σ) τ} {summary : RunSummary} :
    conclude cluster.watched .abort u ≠ .ok (some summary) v := by
  intro hr
  obtain ⟨_, _, -, hr⟩ := bind_eq_ok hr
  cases hr

/-- An end asks for an alias update behind the gate only. -/
theorem gated_conclude (cluster : Cluster σ τ) {us : List AliasUpdate} {u : Session (Watched σ) τ}
    (ending : Ending) (hu : Recorded us u)
    (more : (stateAfter (conclude cluster.watched ending u)).record ≠ us) :
    ending = .close true ∧
    u.lifecycle.Gate cluster.watched (stateAfter (settle cluster.watched u)).tally
      (stateAfter (settle cluster.watched u)).writer.cluster := by
  cases ending with
  | abort => exact absurd (record_abort cluster hu) more
  | close switch =>
    have closing := closing cluster switch hu.atRest
    rw [(conclude_close cluster.watched switch u).1, ← hu.updates] at more
    obtain ⟨actions, -, rfl⟩ := closing.published.once.resolve_left more
    exact ⟨rfl, closing.gate more⟩

theorem publishesOnce (cluster : Cluster σ τ) {us : List AliasUpdate} {s u : Session (Watched σ) τ}
    (ending : Ending) {h : History} (hs : s.writer.window = .closed {})
    (hc : Course (Writer.Move cluster.watched) s.writer h u.writer) (hl : u.lifecycle = s.lifecycle)
    (hu : Recorded us u) : PublishesOnce cluster us s u ending := by
  obtain ⟨g, gc, -⟩ := course_settle cluster.watched hu.atRest
  have gate := gated_conclude cluster ending hu
  refine ⟨hu.updates, ?_, fun more => hl ▸ gate more, ?_, ?_, ⟨h ++ g, hc.trans gc⟩, ?_⟩
  · cases ending with
    | abort => exact .inl (record_abort cluster hu)
    | close switch =>
      have once := (closing cluster switch hu.atRest).published.once
      rw [hu.updates] at once
      rw [(conclude_close cluster.watched switch u).1]
      exact once.imp id fun ⟨actions, told, _⟩ => ⟨actions, _, told⟩
  · cases ending with
    | abort =>
      rw [record_abort cluster hu]
      constructor
      · rintro ⟨summary, v, hr, -⟩
        exact absurd hr (report_abort cluster)
      · rintro ⟨actions, told⟩
        simp at told
    | close switch =>
      have moved := (closing cluster switch hu.atRest).published.moved_iff
      rw [hu.updates] at moved
      simp only [(conclude_close cluster.watched switch u).1,
        (conclude_close cluster.watched switch u).2]
      exact moved
  · intro summary v hr
    cases ending with
    | abort => exact absurd hr (report_abort cluster)
    | close switch =>
      exact (closing cluster switch hu.atRest).published.failed summary v
        (((conclude_close cluster.watched switch u).2 summary v).1 hr)
  · intro b hb bad
    refine Classical.byContradiction fun more => ?_
    have ledger := Writer.tally_of_course hb
    rw [show s.writer.tally = {} from congrArg BulkWindow.tally hs] at ledger
    obtain ⟨clean, r, hr, written⟩ := clean_of_booked ledger (gate more).2.clean
    rcases bad with ⟨l, hl, fails⟩ | none
    · cases (clean l hl).symm.trans fails
    · cases (none r hr).symm.trans written

end Session

end Reindex
