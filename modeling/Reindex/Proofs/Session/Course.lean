import Reindex.Proofs.Writer.Course
import Reindex.Session

/-!
# Courses of a session

What a session's owner asks for, in any order: operations are added, windows are flushed, documents
are read and stored, and in the end the session is closed or aborted. Whatever of it works and
whatever fails, the writer of the session follows a course.

Main statements: `Session.course_carryOut` says so of calls of which any may fail,
`Session.course_performAll` what the course of calls that all worked is like, and
`Session.course_conclude` what that of the end is like.
-/

namespace Reindex

variable {σ τ : Type}

namespace Session

/-- What the owner of a session asks for. -/
inductive Call where
  | add (op : Operation)
  | flush
  | read (id : String)
  | store (id body : String)
deriving DecidableEq, Repr

/-- The operations that calls add. -/
def added (calls : List Call) : List Operation := calls.filterMap fun
  | .add op => some op
  | _ => none

/-- One call. -/
def perform (cluster : Cluster σ τ) : Call → EStateM Error (Session σ τ) Unit
  | .add op => add cluster op
  | .flush => do let _ ← flush cluster
  | .read id => do let _ ← getDocument cluster id
  | .store id body => putDocument cluster id body

/-- Calls one after another, until one fails. -/
def performAll (cluster : Cluster σ τ) : List Call → EStateM Error (Session σ τ) Unit
  | [] => pure ()
  | c :: calls => do
    perform cluster c
    performAll cluster calls

/-- Calls one after another, whether they work or not. -/
def carryOut (cluster : Cluster σ τ) (calls : List Call) (s : Session σ τ) : Session σ τ :=
  calls.foldl (fun s c => stateAfter (perform cluster c s)) s

/-- How a session ends. -/
inductive Ending where
  | close (switch : Bool)
  | abort
deriving DecidableEq, Repr

/-- The end of a session, with its report if it gives one. -/
def conclude (cluster : Cluster σ τ) : Ending → EStateM Error (Session σ τ) (Option RunSummary)
  | .close switch => some <$> close cluster switch
  | .abort => do
    let _ ← abort cluster
    return none

/-! ## The start -/

/-- A session starts as its lifecycle does, with a writer that has not written. -/
theorem ofLifecycle_of_start {cluster : Cluster σ τ} {policy : NamingPolicy} {now : Instant}
    {tuning : Tuning} {payload : IndexPayload} {options : SessionOptions} {s : σ}
    {session : Session σ τ} (h : start cluster policy now tuning payload options s = .ok session) :
    ∃ l v, Lifecycle.start cluster policy now tuning payload options.lifecycle s = .ok l v ∧
      session = ofLifecycle l options.writer v := by
  unfold start at h
  split at h
  · rename_i l v hl
    cases h
    exact ⟨l, v, hl, rfl⟩
  · cases h

theorem start_of_lifecycle {cluster : Cluster σ τ} {policy : NamingPolicy} {now : Instant}
    {tuning : Tuning} {payload : IndexPayload} {options : SessionOptions} {s v : σ} {l : Lifecycle}
    (h : Lifecycle.start cluster policy now tuning payload options.lifecycle s = .ok l v) :
    start cluster policy now tuning payload options s = .ok (ofLifecycle l options.writer v) := by
  unfold start
  rw [h]

/-! ## Calls -/

theorem writer_writing {α : Type} (x : WriterSetup → EStateM Error (Writer σ τ) α)
    (s : Session σ τ) :
    stateAfter (writing x s) = { s with writer := stateAfter (x s.setup s.writer) } := by
  unfold writing
  split <;> rename_i hx <;> rw [hx] <;> rfl

theorem writing_eq_ok {α : Type} {x : WriterSetup → EStateM Error (Writer σ τ) α}
    {s u : Session σ τ} {a : α} (h : writing x s = .ok a u) :
    ∃ w, x s.setup s.writer = .ok a w ∧ u = { s with writer := w } := by
  unfold writing at h
  split at h
  · rename_i w hx
    cases h
    exact ⟨w, hx, rfl⟩
  · cases h

/-- A call that reads or stores a document: it follows a course, and takes nothing and gives nothing
up. -/
theorem course_asking {α : Type} {cluster : Cluster σ τ} {x : Lifecycle → EStateM Failure σ α}
    (hx : ∀ l s, cluster.Serves s (stateAfter (x l s))) {s : Session σ τ}
    (hs : s.writer.window.AtRest) :
    let after := stateAfter (asking cluster (fun l => call (x l)) s)
    ∃ h : History, h.taken = [] ∧ h.dropped = [] ∧
      Course (Writer.Move cluster) s.writer h after.writer ∧
      after.writer.window.AtRest ∧ after.drained = s.drained ∧ after.lifecycle = s.lifecycle := by
  obtain ⟨h, ht, hd, hc, hr⟩ := Writer.course_takeTurn cluster hs
  let turned := s.writer.takeTurn cluster
  have served := hx s.lifecycle turned.cluster
  have hask : stateAfter (asking cluster (fun l => call (x l)) s) =
      { s with writer :=
        { turned with cluster := stateAfter (x s.lifecycle turned.cluster) } } := by
    unfold asking call EStateM.adaptExcept
    dsimp only
    cases x s.lifecycle turned.cluster <;> rfl
  rw [hask]
  exact ⟨h, ht, hd, hc.silent (.serve served), hr, rfl, rfl⟩

theorem course_add (cluster : Cluster σ τ) (op : Operation) {s : Session σ τ}
    (hs : s.writer.window.AtRest) :
    let after := stateAfter (add cluster op s)
    ∃ h : History, Course (Writer.Move cluster) s.writer h after.writer ∧
      after.writer.window.AtRest ∧
      h.dropped = [] ∧ after.drained = s.drained ∧ after.lifecycle = s.lifecycle ∧
      ∀ u, add cluster op s = .ok () u → h.taken = [op] := by
  obtain ⟨h, hc, hr, hd, ht⟩ := Writer.course_add cluster s.setup op hs
  refine ⟨h, ?_⟩
  unfold add
  rw [writer_writing]
  refine ⟨hc, hr, hd, rfl, rfl, fun u hu => ?_⟩
  obtain ⟨w, hw, -⟩ := writing_eq_ok hu
  rw [ht, hw]

theorem course_flush (cluster : Cluster σ τ) {s : Session σ τ} (hs : s.writer.window.AtRest) :
    let after := stateAfter (flush cluster s)
    ∃ h : History, Course (Writer.Move cluster) s.writer h after.writer ∧ h.taken = [] ∧
      after.writer.window = .closed after.tally ∧ after.lifecycle = s.lifecycle ∧
      ∀ drained u, flush cluster s = .ok drained u →
        (u.drained = true ↔ s.drained = true ∧ h.dropped = []) := by
  obtain ⟨h, hc, ht, hclosed, hd⟩ := Writer.course_flush cluster s.setup hs
  have hafter : (stateAfter (flush cluster s)).writer = stateAfter
    (Writer.flush cluster s.setup s.writer) := by
    refine Eq.trans ?_ (congrArg Session.writer (writer_writing (Writer.flush cluster) s))
    unfold flush
    cases hw : writing (Writer.flush cluster) s with
    | ok drained u => rw [bind_of_ok hw]; rfl
    | error e u => rw [bind_of_error hw]
  refine ⟨h, ?_⟩
  rw [tally, hafter]
  refine ⟨hc, ht, hclosed, lifecycle_flush cluster s, fun drained u hu => ?_⟩
  obtain ⟨d, v, hv, hu⟩ := bind_eq_ok hu
  obtain ⟨w, hw, rfl⟩ := writing_eq_ok hv
  cases hu
  rw [← hd drained w hw]
  exact Bool.and_eq_true_iff

/-! ## Calls one after another -/

/-- What the course of one call is like, with its answer. -/
structure Performed (cluster : Cluster σ τ) (c : Call) (s : Session σ τ) (h : History) : Prop where
  course : Course (Writer.Move cluster) s.writer h (stateAfter (perform cluster c s)).writer
  atRest : (stateAfter (perform cluster c s)).writer.window.AtRest
  lifecycle : (stateAfter (perform cluster c s)).lifecycle = s.lifecycle
  taken : ∀ u, perform cluster c s = .ok () u → h.taken = added [c]
  drained : ∀ u, perform cluster c s = .ok () u →
    (u.drained = true ↔ s.drained = true ∧ h.dropped = [])

/-- The answer of a call is passed over. -/
theorem stateAfter_discard {ε σ α β : Type} (x : EStateM ε σ α) (b : β) (s : σ) :
    stateAfter ((do let _ ← x; return b : EStateM ε σ β) s) = stateAfter (x s) := by
  cases hx : x s with
  | ok a u => rw [bind_of_ok hx]; rfl
  | error e u => rw [bind_of_error hx]; rfl

/-- A call that takes nothing and whose answer is passed over. -/
theorem Performed.of_quiet {cluster : Cluster σ τ} {c : Call} {s : Session σ τ} {h : History}
    {α : Type} {x : EStateM Error (Session σ τ) α}
    (hx : stateAfter (perform cluster c s) = stateAfter (x s))
    (hc : Course (Writer.Move cluster) s.writer h (stateAfter (x s)).writer)
    (hr : (stateAfter (x s)).writer.window.AtRest) (hl : (stateAfter (x s)).lifecycle = s.lifecycle)
    (ht : h.taken = added [c]) (hd : h.dropped = []) (hs : (stateAfter (x s)).drained = s.drained) :
    Performed cluster c s h := by
  refine ⟨hx ▸ hc, hx ▸ hr, hx ▸ hl, fun _ _ => ht, fun u hu => ?_⟩
  rw [hu] at hx
  have : u.drained = s.drained := (congrArg Session.drained hx).trans hs
  simp [this, hd]

theorem performed (cluster : Cluster σ τ) (c : Call) {s : Session σ τ}
    (hs : s.writer.window.AtRest) :
    ∃ h, Performed cluster c s h := by
  cases c with
  | add op =>
    obtain ⟨h, hc, hr, hd, hs', hl, ht⟩ := course_add cluster op hs
    refine ⟨h, hc, hr, hl, ht, fun u hu => ?_⟩
    have : u.drained = s.drained := (congrArg (fun r => (stateAfter r).drained) hu).symm.trans hs'
    simp [this, hd]
  | flush =>
    obtain ⟨h, hc, ht, hclosed, hl, hd⟩ := course_flush cluster hs
    have hafter : stateAfter (perform cluster .flush s) = _ :=
      stateAfter_discard (flush cluster) () s
    refine ⟨h, hafter ▸ hc, ?_, hafter ▸ hl, fun u _ => ht, fun u hu => ?_⟩
    · rw [hafter, hclosed]
      trivial
    · obtain ⟨drained, v, hv, hu⟩ := bind_eq_ok hu
      cases hu
      exact hd drained u hv
  | read id =>
    obtain ⟨h, ht, hd, hc, hr, hs', hl⟩ :=
      course_asking (fun (l : Lifecycle) s => .read l.identity.index id s) hs
    exact ⟨h, .of_quiet (stateAfter_discard (getDocument cluster id) () s) hc hr hl ht hd hs'⟩
  | store id body =>
    obtain ⟨h, ht, hd, hc, hr, hs', hl⟩ :=
      course_asking (fun (l : Lifecycle) s => .store l.identity.index id body s) hs
    exact ⟨h, .of_quiet (x := putDocument cluster id body) rfl hc hr hl ht hd hs'⟩

/-- **Calls that may fail** follow a course. -/
theorem course_carryOut (cluster : Cluster σ τ) (calls : List Call) {s : Session σ τ}
    (hs : s.writer.window.AtRest) :
    ∃ h : History, Course (Writer.Move cluster) s.writer h (carryOut cluster calls s).writer ∧
      (carryOut cluster calls s).writer.window.AtRest ∧
        (carryOut cluster calls s).lifecycle = s.lifecycle := by
  induction calls generalizing s with
  | nil => exact ⟨[], .refl _, hs, rfl⟩
  | cons c calls ih =>
    obtain ⟨h, hp⟩ := performed cluster c hs
    obtain ⟨g, gc, gr, gl⟩ := ih hp.atRest
    exact ⟨h ++ g, hp.course.trans gc, gr, gl.trans hp.lifecycle⟩

theorem added_cons (c : Call) (calls : List Call) :
    added (c :: calls) = added [c] ++ added calls := by
  unfold added
  rw [← List.filterMap_append]
  rfl

/-- **Calls that all worked** follow a course that took what they added. -/
theorem course_performAll {cluster : Cluster σ τ} {calls : List Call} {s u : Session σ τ}
    (hs : s.writer.window.AtRest) (hu : performAll cluster calls s = .ok () u) :
    ∃ h : History, Course (Writer.Move cluster) s.writer h u.writer ∧ u.writer.window.AtRest ∧
      h.taken = added calls ∧ (u.drained = true ↔ s.drained = true ∧ h.dropped = []) := by
  induction calls generalizing s with
  | nil =>
    cases hu
    exact ⟨[], .refl _, hs, rfl, by simp [History.dropped]⟩
  | cons c calls ih =>
    obtain ⟨⟨⟩, v, hv, hu⟩ := bind_eq_ok hu
    obtain ⟨h, hp⟩ := performed cluster c hs
    have course := hp.course
    have atRest := hp.atRest
    have taken := hp.taken v hv
    have drained := hp.drained v hv
    rw [hv] at course atRest
    obtain ⟨g, gc, gr, gt, gd⟩ := ih (s := v) atRest hu
    refine ⟨h ++ g, course.trans gc, gr, ?_, ?_⟩
    · rw [History.taken_append, taken, gt, ← added_cons]
    · rw [gd, drained, History.dropped_append, List.append_eq_nil_iff, and_assoc]

/-! ## The end -/

/-- An end by closing is the closing. -/
theorem conclude_close (cluster : Cluster σ τ) (switch : Bool) (s : Session σ τ) :
    stateAfter (conclude cluster (.close switch) s) = stateAfter (close cluster switch s) ∧
      ∀ summary v, conclude cluster (.close switch) s = .ok (some summary) v ↔
        close cluster switch s = .ok summary v := by
  show stateAfter ((some <$> close cluster switch) s) = _ ∧
    ∀ summary v, (some <$> close cluster switch) s = _ ↔ _
  simp only [Functor.map, EStateM.map]
  cases close cluster switch s with
  | ok summary v => exact ⟨rfl, fun _ _ => ⟨fun h => by cases h; rfl, fun h => by cases h; rfl⟩⟩
  | error e v => exact ⟨rfl, fun _ _ => ⟨fun h => (by cases h), fun h => (by cases h)⟩⟩

/-- What is left of a session that is given up is what its last flush left. -/
theorem stateAfter_abort (cluster : Cluster σ τ) (s : Session σ τ) :
    stateAfter (abort cluster s) = stateAfter (flush cluster s) := by
  unfold abort
  cases hf : flush cluster s with
  | ok drained u =>
    rw [bind_of_ok hf]
    rfl
  | error e u =>
    rw [bind_of_error hf]
    rfl

theorem conclude_abort (cluster : Cluster σ τ) (s : Session σ τ) :
    stateAfter (conclude cluster .abort s) = stateAfter (abort cluster s) :=
  stateAfter_discard (abort cluster) none s

theorem decide_false (cluster : Cluster σ τ) (s : Session σ τ) :
    decide cluster false s = .ok .notRequested s := rfl

theorem decide_true (cluster : Cluster σ τ) (s : Session σ τ) :
    decide cluster true s =
      let turned := s.writer.takeTurn cluster
      match s.lifecycle.switchIndex cluster s.tally turned.cluster with
      | .ok decided c =>
        .ok decided.1 { s with lifecycle := decided.2, writer := { turned with cluster := c } }
      | .error e c => .error e { s with writer := { turned with cluster := c } } := by
  show (asking cluster (fun l => l.switchIndex cluster s.tally) >>= _) s = _
  cases hx : s.lifecycle.switchIndex cluster s.tally (s.writer.takeTurn cluster).cluster with
  | ok decided c =>
    rw [bind_of_ok (show asking cluster (fun l => l.switchIndex cluster s.tally) s =
      .ok decided _ by
      unfold asking; dsimp only; rw [hx])]
    dsimp only
    rw [hx]
    rfl
  | error e c =>
    rw [bind_of_error (show asking cluster (fun l => l.switchIndex cluster s.tally) s =
      .error e _ by
      unfold asking; dsimp only; rw [hx])]
    dsimp only
    rw [hx]

/-- Deciding on the alias leaves the ledger and what was told of the flushes alone. -/
theorem window_decide (cluster : Cluster σ τ) (switch : Bool) {s : Session σ τ} {t : RunTally}
    (hs : s.writer.window = .closed t) :
    (stateAfter (decide cluster switch s)).writer.window = .closed t ∧
      (stateAfter (decide cluster switch s)).drained = s.drained := by
  cases switch with
  | false => exact ⟨hs, rfl⟩
  | true =>
    rw [decide_true]
    have turned := Writer.window_takeTurn cluster hs
    dsimp only
    split <;> exact ⟨turned, rfl⟩

/-- The session on which the alias is decided: what was open is flushed. -/
def settle (cluster : Cluster σ τ) : EStateM Error (Session σ τ) Unit := fun s =>
  if s.writer.window.isOpen then (do let _ ← flush cluster : EStateM Error (Session σ τ) Unit) s
    else .ok () s

/-- A session is settled, then the alias is decided on. -/
theorem close_eq (cluster : Cluster σ τ) (switch : Bool) :
    close cluster switch = (do
      settle cluster
      let outcome ← decide cluster switch
      return (← get).summary outcome : EStateM Error (Session σ τ) RunSummary) := by
  funext s
  unfold close
  rw [bind_get]
  by_cases ho : s.writer.window.isOpen
  · rw [if_pos ho]
    cases hf : flush cluster s with
    | ok drained u =>
      have hs : settle cluster s = .ok () u := by
        unfold settle
        rw [if_pos ho, bind_of_ok hf]
        rfl
      rw [bind_of_ok hf, bind_of_ok hs]
    | error e u =>
      have hs : settle cluster s = .error e u := by
        unfold settle
        rw [if_pos ho, bind_of_error hf]
      rw [bind_of_error hf, bind_of_error hs]
  · rw [if_neg ho]
    have hs : settle cluster s = .ok () s := by
      unfold settle
      rw [if_neg ho]
    rw [bind_of_ok hs]

theorem course_settle (cluster : Cluster σ τ) {s : Session σ τ} (hs : s.writer.window.AtRest) :
    let after := stateAfter (settle cluster s)
    ∃ h : History, Course (Writer.Move cluster) s.writer h after.writer ∧ h.taken = [] ∧
      after.writer.window = .closed after.tally ∧ after.lifecycle = s.lifecycle ∧
      ∀ u, settle cluster s = .ok () u →
        (u.drained = true ↔ s.drained = true ∧ h.dropped = []) := by
  unfold settle
  by_cases ho : s.writer.window.isOpen
  · rw [if_pos ho, show stateAfter _ = _ from stateAfter_discard (flush cluster) () s]
    obtain ⟨h, hc, ht, hclosed, hl, hd⟩ := course_flush cluster hs
    refine ⟨h, hc, ht, hclosed, hl, fun u hu => ?_⟩
    obtain ⟨drained, v, hv, hu⟩ := bind_eq_ok hu
    cases hu
    exact hd drained u hv
  · rw [if_neg ho]
    refine ⟨[], .refl _, rfl, ?_, rfl, ?_⟩
    · cases hw : s.writer.window with
      | closed t =>
        show s.writer.window = .closed s.writer.window.tally
        rw [hw]
        rfl
      | opened channel =>
        rw [hw] at ho
        exact absurd rfl ho
    · rintro u ⟨⟩
      simp [History.dropped]

/-- A closing that was asked to move the alias decides on it in the state of the settled session. -/
theorem switchIndex_of_close {cluster : Cluster σ τ} {s v : Session σ τ} {summary : RunSummary}
    (hs : s.writer.window.AtRest) (h : close cluster true s = .ok summary v) :
    ∃ (g : History) (d : Session σ τ), Course (Writer.Move cluster) s.writer g d.writer ∧
      d.tally = v.tally ∧
      s.lifecycle.switchIndex cluster d.tally d.writer.cluster = .ok
        (summary.outcome, v.lifecycle) v.writer.cluster := by
  rw [close_eq] at h
  obtain ⟨⟨⟩, d, settled, h⟩ := bind_eq_ok h
  obtain ⟨outcome, _, decided, h⟩ := bind_eq_ok h
  cases h
  obtain ⟨g, course, -, closed, same, -⟩ := course_settle cluster hs
  rw [settled] at course closed same
  have closed : d.writer.window = .closed d.tally := closed
  have same : d.lifecycle = s.lifecycle := same
  obtain ⟨window, -⟩ := window_decide cluster true (s := d) closed
  rw [decided] at window
  have window : v.writer.window = .closed d.tally := window
  refine ⟨g, d, course, ?_, ?_⟩
  · show d.tally = v.writer.window.tally
    rw [window]
    rfl
  · rw [decide_true] at decided
    dsimp only at decided
    rw [Writer.cluster_takeTurn cluster closed, same] at decided
    split at decided
    · rename_i x c hx
      cases decided
      exact hx
    · cases decided

end Session

end Reindex
