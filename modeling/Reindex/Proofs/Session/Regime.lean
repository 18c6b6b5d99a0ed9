import Reindex.Proofs.Lifecycle.Switch
import Reindex.Proofs.Session.Course
import Reindex.Proofs.Writer.Regime

/-!
# Sessions that keep to a regime

A session calls its cluster while its writer's bulk window is closed or open. If the cluster follows
a regime in these calls, then the regime holds at every point of the session, and behind its end,
where the window is closed for good.

Main statements: `Session.leads_performAll` for calls that all work, `Session.under_carryOut` for
calls of which any may fail, and `Session.leads_conclude` for the end.
-/

namespace Reindex

variable {σ τ : Type}

namespace Lifecycle

variable {cluster : Cluster σ τ} {P E : σ → Prop}

theorem leads_aliasTarget (hd : cluster.Decides P E) (aliasName : String) :
    Leads P (aliasTarget cluster aliasName) P E := by
  unfold aliasTarget
  refine (hd.aliases _).call.bind fun table => ?_
  split
  · exact .pure none fun _ h => h
  · exact .pure _ fun _ h => h
  · exact .throw _ hd.given

theorem leads_planSwitch (hd : cluster.Decides P E) (aliasName : String) (old : Option String) (new : String) :
    Leads P (planSwitch cluster aliasName old new) P E := by
  unfold planSwitch
  cases old with
  | none => exact .pure _ fun _ h => h
  | some old =>
    refine (hd.indexExists old).call.bind fun found => ?_
    split
    · exact (hd.aliases _).call.bind fun attached => .pure _ fun _ h => h
    · exact .pure _ fun _ h => h

/-- The decision on the alias is taken outside of bulk windows. -/
theorem leads_switchIndex (hd : cluster.Decides P E) (l : Lifecycle) (tally : RunTally) :
    Leads P (l.switchIndex cluster tally) P E := by
  intro s hs
  by_cases hl : l.state = .ensured
  · cases ha : l.identity.aliasName with
    | none =>
      rw [switchIndex_of_direct cluster hl ha]
      exact hs
    | some aliasName =>
      cases ht : skipReason? tally with
      | some reason =>
        rw [switchIndex_of_skipped cluster hl ha ht]
        exact hs
      | none =>
        rw [switchIndex_of_clean cluster hl ha (skipReason?_eq_none.1 ht)]
        refine (leads_aliasTarget hd aliasName).bind (fun old => ?_) s hs
        split
        · exact .pure _ fun _ h => h
        · unfold publish
          exact (leads_planSwitch hd aliasName old l.identity.index).bind fun plan =>
            (hd.updateAliases plan.actions).call.bind fun _ => .pure _ fun _ h => h
  · rw [switchIndex_of_finished cluster hl]
    exact hd.given s hs

end Lifecycle

namespace Session

/-- A session of this setup whose writer has the property. -/
structure With (setup : WriterSetup) (P : Writer σ τ → Prop) (s : Session σ τ) : Prop where
  setup : s.setup = setup
  writer : P s.writer

variable {cluster : Cluster σ τ} {setup : WriterSetup} {r e : Regime σ} {α : Type}

/-! ## One call -/

theorem leads_writing {P Q E : Writer σ τ → Prop} {x : WriterSetup → EStateM Error (Writer σ τ) α}
    (hx : Leads P (x setup) Q E) : Leads (With setup P) (writing x) (With setup Q) (With setup E) := by
  intro s hs
  have led := hx s.writer hs.writer
  unfold writing
  rw [hs.setup]
  cases hw : x setup s.writer with
  | ok a w =>
    rw [hw] at led
    exact ⟨hs.setup, led⟩
  | error e w =>
    rw [hw] at led
    exact ⟨hs.setup, led⟩

/-- A call of a session to its cluster is one of its writer. -/
theorem asking_eq (cluster : Cluster σ τ) (x : Lifecycle → EStateM Failure σ α) (s : Session σ τ) :
    asking cluster (fun l => call (x l)) s = writing (fun _ => Writer.ask cluster (x s.lifecycle)) s := by
  unfold asking writing Writer.ask call EStateM.adaptExcept
  dsimp only
  cases x s.lifecycle (s.writer.takeTurn cluster).cluster <;> rfl

theorem leads_asking {P Q E : Writer σ τ → Prop} {x : Lifecycle → EStateM Failure σ α}
    (hx : ∀ l, l.identity.index = setup.index → Leads P (Writer.ask cluster (x l)) Q E) :
    Leads (With setup P) (asking cluster fun l => call (x l)) (With setup Q) (With setup E) := by
  intro s hs
  rw [asking_eq]
  exact leads_writing (x := fun _ => Writer.ask cluster (x s.lifecycle))
    (hx s.lifecycle (congrArg WriterSetup.index hs.setup)) s hs

/-- A flush of a session is one of its writer. -/
theorem leads_flush {P Q E : Writer σ τ → Prop} (hx : Leads P (Writer.flush cluster setup) Q E) :
    Leads (With setup P) (flush cluster) (With setup Q) (With setup E) := by
  unfold flush
  refine (leads_writing (x := Writer.flush cluster) hx).bind fun drained => ?_
  exact .bind (Q := With setup Q) (fun s hs => ⟨hs.setup, hs.writer⟩) fun _ => .pure drained fun _ h => h

theorem leads_perform (hf : cluster.Follows setup r e) (c : Call) :
    Leads (With setup (Writer.Under r)) (perform cluster c) (With setup (Writer.Under r))
      (With setup (Writer.Under e)) := by
  cases c with
  | add op => exact leads_writing (x := fun setup => Writer.add cluster setup op) (Writer.leads_add hf op)
  | flush =>
    have flushed : Leads (Writer.Under r) (Writer.flush cluster setup) (Writer.Under r)
      (Writer.Under e) :=
      (Writer.leads_flush hf).weaken (fun _ ⟨_, h⟩ => .closed h) fun _ ⟨_, h⟩ => .closed h
    exact (leads_flush flushed).bind fun _ => .pure () fun _ h => h
  | read id =>
    refine (leads_asking fun l hl => ?_).bind fun _ => .pure () fun _ h => h
    rw [hl]
    exact Writer.leads_ask hf (hf.read id)
  | store id body =>
    refine leads_asking (x := fun l => cluster.putDocument l.identity.index id body) fun l hl => ?_
    rw [hl]
    exact Writer.leads_ask hf (hf.store id body)

/-! ## Calls one after another -/

/-- **Calls that all work** keep to the regime. -/
theorem leads_performAll (hf : cluster.Follows setup r e) (calls : List Call) :
    Leads (With setup (Writer.Under r)) (performAll cluster calls) (With setup (Writer.Under r))
      (With setup (Writer.Under e)) := by
  induction calls with
  | nil => exact .pure () fun _ h => h
  | cons c calls ih => exact (leads_perform hf c).bind fun _ => ih

/-- **Calls of which any may fail** keep to a regime that holds behind those that fail, too. -/
theorem under_carryOut (hf : cluster.Follows setup r r) (calls : List Call) {s : Session σ τ}
    (hs : s.With setup (Writer.Under r)) :
    (carryOut cluster calls s).With setup (Writer.Under r) := by
  induction calls generalizing s with
  | nil => exact hs
  | cons c calls ih => exact ih ((leads_perform hf c).stateAfter hs)

/-- A call that adds nothing leaves a closed window closed and books nothing. -/
theorem leads_perform_closed {P : σ → Prop} {tally : RunTally}
    (refresh : Leads P (cluster.refreshIndex setup.index) P P)
    (read : ∀ id, Leads P (cluster.getDocument setup.index id) P P)
    (store : ∀ id body, Leads P (cluster.putDocument setup.index id body) P P) {c : Call}
    (hc : added [c] = []) :
    Leads (With setup (Writer.Closed tally P)) (perform cluster c)
      (With setup (Writer.Closed tally P))
      (With setup (Writer.Closed tally P)) := by
  cases c with
  | add op => cases hc
  | flush => exact (leads_flush (Writer.leads_flush_closed refresh)).bind fun _ => .pure () fun _ h => h
  | read id =>
    refine (leads_asking fun l hl => ?_).bind fun _ => .pure () fun _ h => h
    rw [hl]
    exact Writer.leads_ask_closed (read id)
  | store id body =>
    refine leads_asking (x := fun l => cluster.putDocument l.identity.index id body) fun l hl => ?_
    rw [hl]
    exact Writer.leads_ask_closed (store id body)

/-- Nor do such calls one after another. -/
theorem closed_carryOut {P : σ → Prop} {tally : RunTally}
    (refresh : Leads P (cluster.refreshIndex setup.index) P P)
    (read : ∀ id, Leads P (cluster.getDocument setup.index id) P P)
    (store : ∀ id body, Leads P (cluster.putDocument setup.index id body) P P) {calls : List Call}
    (hc : added calls = []) {s : Session σ τ} (hs : s.With setup (Writer.Closed tally P)) :
    (carryOut cluster calls s).With setup (Writer.Closed tally P) := by
  induction calls generalizing s with
  | nil => exact hs
  | cons c calls ih =>
    rw [added_cons, List.append_eq_nil_iff] at hc
    exact ih hc.2 ((leads_perform_closed refresh read store hc.1).stateAfter hs)

/-! ## The end -/

theorem leads_decide {P E : σ → Prop} (hp : cluster.Decides P E) (switch : Bool)
    (tally : RunTally) :
    Leads (fun s => s.writer.Closed tally P) (decide cluster switch)
      (fun s => s.writer.Closed tally P)
      fun s => s.writer.Closed tally E := by
  intro s hs
  cases switch with
  | false => exact hs
  | true =>
    have turned := Writer.closed_takeTurn cluster hs
    have led := Lifecycle.leads_switchIndex hp s.lifecycle s.tally _ turned.cluster
    rw [decide_true]
    dsimp only
    cases hd : s.lifecycle.switchIndex cluster s.tally (s.writer.takeTurn cluster).cluster with
    | ok decided c =>
      rw [hd] at led
      exact ⟨turned.window, led⟩
    | error e c =>
      rw [hd] at led
      exact ⟨turned.window, led⟩

/-- An end is a flush, unless the window is closed already, and perhaps a decision. -/
theorem leads_conclude_of {P : Writer σ τ → Prop} {Q E : σ → Prop}
    (flushes : Leads P (Writer.flush cluster setup) (fun w => ∃ tally, w.Closed tally Q) fun w =>
      ∃ tally, w.Closed tally E)
    (still : ∀ w, P w → w.window.isOpen = false → ∃ tally, w.Closed tally Q)
    (decides : cluster.Decides Q E) (ending : Ending) :
    Leads (With setup P) (conclude cluster ending) (fun s => ∃ tally, s.writer.Closed tally Q)
      fun s => ∃ tally, s.writer.Closed tally E := by
  have flushed := (leads_flush flushes).weaken (fun _ h => h.writer) fun _ h => h.writer
  have settled : Leads (With setup P) (settle cluster) (fun s => ∃ tally, s.writer.Closed tally Q)
      fun s => ∃ tally, s.writer.Closed tally E := by
    intro s hs
    unfold settle
    by_cases ho : s.writer.window.isOpen
    · rw [if_pos ho]
      exact flushed.bind (fun _ => .pure () fun _ h => h) s hs
    · rw [if_neg ho]
      exact still s.writer hs.writer (Bool.eq_false_iff.2 ho)
  have decided (switch : Bool) : Leads (fun s : Session σ τ => ∃ tally, s.writer.Closed tally Q)
    (decide cluster switch)
      (fun s => ∃ tally, s.writer.Closed tally Q) fun s => ∃ tally, s.writer.Closed tally E := by
    rintro s ⟨tally, hs⟩
    exact (leads_decide decides switch tally).weaken (fun _ h => ⟨_, h⟩) (fun _ h => ⟨_, h⟩) s hs
  cases ending with
  | close switch =>
    have closed : Leads (With setup P) (close cluster switch)
      (fun s => ∃ tally, s.writer.Closed tally Q)
        fun s => ∃ tally, s.writer.Closed tally E := by
      rw [close_eq]
      exact settled.bind fun _ => (decided switch).bind fun outcome => fun s hs => hs
    exact closed.bind fun summary => .pure (some summary) fun _ h => h
  | abort => exact (flushed.bind fun _ => fun s hs => hs).bind fun _ => .pure none fun _ h => h

/-- **Behind the end** of a session the window is closed, and the cluster is as the regime asks for
then. -/
theorem leads_conclude (hf : cluster.Follows setup r e) (ending : Ending) :
    Leads (With setup (Writer.Under r)) (conclude cluster ending)
      (fun s => ∃ tally, s.writer.Closed tally r.closed)
      fun s => ∃ tally, s.writer.Closed tally e.closed := by
  refine leads_conclude_of (Writer.leads_flush hf) (fun w hw ho => ?_) hf.decides ending
  cases hw with
  | closed hw => exact ⟨_, hw⟩
  | opened hw =>
    rw [hw.window] at ho
    cases ho

end Session

end Reindex
