import Reindex.Proofs.Bulk.Schedule
import Reindex.Proofs.Bulk.Settlement
import Reindex.Writer

/-!
# Courses of a writer

A writer's channel is opened and closed, its batches move while it is open, and between the bulk
calls it makes others. `Writer.Move` is one such move; a channel is closed only when nothing is left
in it.

Main statements: `Writer.course_add` and `Writer.course_flush` say which courses adding and flushing
follow, also where they fail, and `Writer.settled` that at the end of every course the ledger
accounts for what was taken.
-/

namespace Reindex

variable {σ τ : Type}

/-- A call that a writer makes besides its bulk calls. -/
inductive Cluster.Serves (cluster : Cluster σ τ) : σ → σ → Prop
  | refresh (index : String) (s : σ) : Serves cluster s (stateAfter (cluster.refreshIndex index s))
  | settings (index : String) (update : SettingsUpdate) (s : σ) :
      Serves cluster s (stateAfter (cluster.updateSettings index update s))
  | read (index id : String) (s : σ) :
      Serves cluster s (stateAfter (cluster.getDocument index id s))
  | store (index id body : String) (s : σ) :
      Serves cluster s (stateAfter (cluster.putDocument index id body s))

namespace BulkWindow

/-- The operations that a window holds. -/
def held : BulkWindow τ → List Operation
  | .closed _ => []
  | .opened channel => channel.held

/-- What landed in a window and is not booked. -/
def landed : BulkWindow τ → List Landing
  | .closed _ => []
  | .opened channel => channel.landed

/-- A window whose batches all have something left to send. -/
def Sound : BulkWindow τ → Prop
  | .closed _ => True
  | .opened channel => channel.Sound

end BulkWindow

namespace Writer

/-- One move of a writer, with what can be told of it. -/
inductive Move (cluster : Cluster σ τ) : Writer σ τ → History → Writer σ τ → Prop
  | traffic {w : Writer σ τ} {channel : Channel τ} {h : History} {t : Traffic σ τ}
      (hw : w.window = .opened channel)
      (hm : Traffic.Move cluster (w.traffic channel) h t) : Move cluster w h (ofTraffic t)
  | openWindow {w : Writer σ τ} {tally : RunTally} (hw : w.window = .closed tally) (index : String)
      (limits : BatchLimits) (backoff : BackoffPolicy) :
      Move cluster w [] { w with window := .opened (.ofTally index limits backoff tally) }
  | closeWindow {w : Writer σ τ} {channel : Channel τ} (hw : w.window = .opened channel)
      (he : channel.Empty) :
      Move cluster w [] { w with window := .closed channel.tally }
  | serve {w : Writer σ τ} {s : σ} (hs : cluster.Serves w.cluster s) :
      Move cluster w [] { w with cluster := s }
  | wait (w : Writer σ τ) (now allowance : Nat) : Move cluster w [] { w with now, allowance }

/-! ## What courses keep -/

theorem Move.tally {cluster : Cluster σ τ} {h : History} {w u : Writer σ τ}
    (hm : Move cluster w h u) :
    u.tally = h.booked.foldl RunTally.settle w.tally := by
  cases hm with
  | traffic hw hm =>
    unfold Writer.tally
    rw [hw]
    exact hm.books.2
  | openWindow hw =>
    unfold Writer.tally
    rw [hw]
    rfl
  | closeWindow hw =>
    unfold Writer.tally
    rw [hw]
    rfl
  | serve hs => rfl
  | wait now allowance => rfl

/-- The ledger of a writer is what was booked. -/
theorem tally_of_course {cluster : Cluster σ τ} {h : History} {w u : Writer σ τ}
    (hc : Course (Move cluster) w h u) :
    u.tally = h.booked.foldl RunTally.settle w.tally := by
  refine hc.invariant (I := fun (h : History) u => u.tally = h.booked.foldl RunTally.settle w.tally)
    rfl fun before hm => ?_
  rw [hm.tally, before, History.booked_append, List.foldl_append]

/-- What a writer that began with nothing has taken so far is in its window or accounted for. -/
structure Accounts (h : History) (w : Writer σ τ) : Prop where
  conserved : h.taken.Perm (w.window.held ++ (h.ended ++ h.givenUp))
  booked : h.landings.map Prod.snd = h.booked ++ w.window.landed
  window : w.window.Sound
  history : h.Sound

theorem Accounts.of_closed {w : Writer σ τ} (hw : w.window = .closed {}) : Accounts [] w where
  conserved := by rw [hw]; exact .refl _
  booked := by rw [hw]; rfl
  window := by rw [hw]; trivial
  history := .nil

/-- The same accounts where neither the history nor the window says more. -/
theorem Accounts.silent {h : History} {w u : Writer σ τ} (ha : Accounts h w)
    (held : u.window.held = w.window.held) (landed : u.window.landed = w.window.landed)
    (window : u.window.Sound) : Accounts (h ++ []) u where
  conserved := by rw [List.append_nil, held]; exact ha.conserved
  booked := by rw [List.append_nil, landed]; exact ha.booked
  window := window
  history := by rw [List.append_nil]; exact ha.history

theorem Move.accounts {cluster : Cluster σ τ} (aligned : cluster.Aligned) {h g : History}
    {w u : Writer σ τ} (ha : Accounts h w) (hm : Move cluster w g u) : Accounts (h ++ g) u := by
  cases hm with
  | @traffic channel g t hw hm =>
    have window := ha.window
    have conserved := ha.conserved
    have booked := ha.booked
    rw [hw] at window conserved booked
    obtain ⟨sound, history⟩ := hm.sound aligned (t := w.traffic channel) window
    refine ⟨?_, ?_, sound, ha.history.append history⟩
    · refine List.perm_iff_count.2 fun op => ?_
      have step : (channel.held ++ _).count op = (t.channel.held ++ _).count op :=
        hm.conserves.count_eq op
      have before : _ = (channel.held ++ _).count op := conserved.count_eq op
      show _ = (t.channel.held ++ _).count op
      simp only [List.count_append, History.taken_append, History.ended_append,
        History.givenUp_append] at step before ⊢
      omega
    · rw [History.landings_append, List.map_append, booked, History.booked_append,
        List.append_assoc, List.append_assoc]
      exact congrArg _ hm.books.1
  | @openWindow tally hw index limits backoff =>
    refine ha.silent ?_ ?_ ⟨fun _ ho => (by cases ho), fun _ hf => (by cases hf)⟩
    · rw [hw]; rfl
    · rw [hw]; rfl
  | @closeWindow channel hw he =>
    refine ha.silent ?_ ?_ trivial
    · rw [hw]; exact he.held.symm
    · rw [hw]; exact he.landed.symm
  | serve hs => exact ha.silent rfl rfl ha.window
  | wait now allowance => exact ha.silent rfl rfl ha.window

/-- **The end of every course.** Whatever the order of its moves, a writer that began with nothing
and has closed its window has settled its accounts. -/
theorem settled {cluster : Cluster σ τ} (aligned : cluster.Aligned) {w u : Writer σ τ} {h : History}
    {tally : RunTally} (hw : w.window = .closed {}) (hc : Course (Move cluster) w h u)
    (hu : u.window = .closed tally) :
    h.Settles tally ∧ h.landings.map Prod.snd = h.booked ∧ h.Sound := by
  have ha : Accounts h u := hc.invariant (.of_closed hw) fun ha hm => hm.accounts aligned ha
  have conserved := ha.conserved
  have booked := ha.booked
  have settles := tally_of_course hc
  unfold Writer.tally at settles
  rw [hu, hw] at settles
  rw [hu] at conserved booked
  have all : h.landings.map Prod.snd = h.booked := booked.trans (List.append_nil _)
  exact ⟨History.settles conserved all settles ha.history, all, ha.history⟩

end Writer

/-! ## What the cluster keeps -/

/-- What no call of a writer to a cluster destroys. -/
structure Cluster.Steady (cluster : Cluster σ τ) (P : σ → Prop) : Prop where
  beginBulk : ∀ now index ops s, P s → P (cluster.beginBulk now index ops s).2
  finishBulk : ∀ ticket index ops s, P s → P (cluster.finishBulk ticket index ops s).2
  serves : ∀ {s s'}, cluster.Serves s s' → P s → P s'

/-- What no bulk call to a cluster destroys. -/
structure Cluster.Carries (cluster : Cluster σ τ) (P : σ → Prop) : Prop where
  beginBulk : ∀ now index ops s, P s → P (cluster.beginBulk now index ops s).2
  finishBulk : ∀ ticket index ops s, P s → P (cluster.finishBulk ticket index ops s).2

theorem Cluster.Steady.carries {cluster : Cluster σ τ} {P : σ → Prop} (hP : cluster.Steady P) :
    cluster.Carries P :=
  ⟨hP.beginBulk, hP.finishBulk⟩

namespace Traffic

theorem Move.carried {cluster : Cluster σ τ} {P : σ → Prop} (hP : cluster.Carries P)
    {t u : Traffic σ τ} {h : History} (ht : P t.cluster) (hm : Move cluster t h u) :
    P u.cluster := by
  cases hm with
  | @send f rest wait ticket s now hf hp hb =>
    have kept := hP.beginBulk now t.channel.index f.submission.attempt _ ht
    rw [hb] at kept
    exact kept
  | @resend f g rest ticket answer s now hf hp ha hg =>
    have kept := hP.finishBulk ticket t.channel.index f.submission.attempt _ ht
    rw [ha] at kept
    exact kept
  | @land f rest ticket answer s landing now hf hp ha hl =>
    have kept := hP.finishBulk ticket t.channel.index f.submission.attempt _ ht
    rw [ha] at kept
    exact kept
  | _ => exact ht

/-- An open channel makes bulk calls and no others. -/
theorem carried {cluster : Cluster σ τ} {P : σ → Prop} (hP : cluster.Carries P) {t u : Traffic σ τ}
    {h : History} (ht : P t.cluster) (hc : Course (Move cluster) t h u) : P u.cluster :=
  hc.invariant (I := fun _ t => P t.cluster) ht fun ht hm => hm.carried hP ht

end Traffic

namespace Writer

theorem Move.steady {cluster : Cluster σ τ} {P : σ → Prop} (hP : cluster.Steady P)
    {w u : Writer σ τ} {h : History} (hw : P w.cluster) (hm : Move cluster w h u) :
    P u.cluster := by
  cases hm with
  | traffic _ hm => exact hm.carried hP.carries hw
  | serve hs => exact hP.serves hs hw
  | _ => exact hw

theorem steady {cluster : Cluster σ τ} {P : σ → Prop} (hP : cluster.Steady P) {w u : Writer σ τ}
    {h : History} (hw : P w.cluster) (hc : Course (Move cluster) w h u) : P u.cluster :=
  hc.invariant (I := fun _ w => P w.cluster) hw fun hw hm => hm.steady hP hw

/-! ## What a writer does -/

theorem ofTraffic_traffic {w : Writer σ τ} {channel : Channel τ} (hw : w.window = .opened channel) :
    ofTraffic (w.traffic channel) = w := by
  unfold ofTraffic traffic
  rw [← hw]

/-- A course of an open channel is one of its writer. -/
theorem course_traffic {cluster : Cluster σ τ} {w : Writer σ τ} {channel : Channel τ} {h : History}
    {t : Traffic σ τ} (hw : w.window = .opened channel)
    (hc : Course (Traffic.Move cluster) (w.traffic channel) h t) :
    Course (Move cluster) w h (ofTraffic t) := by
  induction hc with
  | refl =>
    rw [ofTraffic_traffic hw]
    exact .refl w
  | @tail u v h g _ hm ih =>
    have opened : (ofTraffic u).window = .opened u.channel := rfl
    exact ih.tail (.traffic opened hm)

end Writer

/-- A window whose channel, if it is open, is at rest. -/
def BulkWindow.AtRest : BulkWindow τ → Prop
  | .closed _ => True
  | .opened channel => channel.AtRest

namespace Writer

/-- A call that takes nothing and gives nothing up: it follows a course, and the writer is at rest
again. -/
def Quiet {ε α : Type} (cluster : Cluster σ τ) (x : EStateM ε (Writer σ τ) α) : Prop :=
  ∀ w : Writer σ τ, w.window.AtRest → ∃ h : History, h.taken = [] ∧ h.dropped = [] ∧
    Course (Move cluster) w h (stateAfter (x w)) ∧ (stateAfter (x w)).window.AtRest

theorem Quiet.pure {ε α : Type} (cluster : Cluster σ τ) (a : α) :
    Quiet cluster (Pure.pure a : EStateM ε (Writer σ τ) α) :=
  fun w hw => ⟨[], rfl, rfl, .refl w, hw⟩

theorem Quiet.bind {ε α β : Type} {cluster : Cluster σ τ} {x : EStateM ε (Writer σ τ) α}
    {f : α → EStateM ε (Writer σ τ) β} (hx : Quiet cluster x) (hf : ∀ a, Quiet cluster (f a)) :
    Quiet cluster (x >>= f) := by
  intro w hw
  obtain ⟨h, ht, hd, hc, hr⟩ := hx w hw
  cases hxw : x w with
  | error e u =>
    rw [hxw] at hc hr
    rw [bind_of_error hxw f]
    exact ⟨h, ht, hd, hc, hr⟩
  | ok a u =>
    rw [hxw] at hc hr
    obtain ⟨g, gt, gd, gc, gr⟩ := hf a u hr
    rw [bind_of_ok hxw f]
    refine ⟨h ++ g, ?_, ?_, hc.trans gc, gr⟩
    · rw [History.taken_append, ht, gt]; rfl
    · rw [History.dropped_append, hd, gd]; rfl

theorem course_takeTurn (cluster : Cluster σ τ) {w : Writer σ τ} (hw : w.window.AtRest) :
    ∃ h : History, h.taken = [] ∧ h.dropped = [] ∧ Course (Move cluster) w h (w.takeTurn cluster) ∧
      (w.takeTurn cluster).window.AtRest := by
  obtain ⟨window, now, s, allowance⟩ := w
  cases window with
  | closed tally => exact ⟨[], rfl, rfl, .single (.wait _ now _), trivial⟩
  | opened channel =>
    let t : Traffic σ τ := { channel, now, cluster := s, allowance }
    obtain ⟨h, hh, hc⟩ := Traffic.course_makeReady cluster t
    have rest := Traffic.atRest_makeReady cluster (t := t) hw
    refine ⟨h, hh.taken, hh.dropped, ?_, rest⟩
    exact (course_traffic (w := ⟨.opened channel, now, s, allowance⟩) rfl hc).silent (.wait _ _ _)

theorem quiet_ask {α : Type} {cluster : Cluster σ τ} {x : EStateM Failure σ α}
    (hx : ∀ s, cluster.Serves s (stateAfter (x s))) : Quiet cluster (ask cluster x) := by
  intro w hw
  obtain ⟨h, ht, hd, hc, hr⟩ := course_takeTurn cluster hw
  have served := hx (w.takeTurn cluster).cluster
  have hask : stateAfter (ask cluster x w) =
      { w.takeTurn cluster with cluster := stateAfter (x (w.takeTurn cluster).cluster) } := by
    unfold ask
    dsimp only
    split <;> rename_i hxw <;> rw [hxw] <;> rfl
  rw [hask]
  exact ⟨h, ht, hd, hc.silent (.serve served), hr⟩

theorem quiet_applySettings (cluster : Cluster σ τ) (setup : WriterSetup)
    (update : SettingsUpdate) :
    Quiet cluster (applySettings cluster setup update) := by
  unfold applySettings
  split
  · exact quiet_ask fun s => .settings setup.index update s
  · exact .pure cluster ()

theorem window_takeTurn (cluster : Cluster σ τ) {w : Writer σ τ} {tally : RunTally}
    (hw : w.window = .closed tally) :
    (w.takeTurn cluster).window = .closed tally := by
  unfold takeTurn
  rw [hw]

theorem cluster_takeTurn (cluster : Cluster σ τ) {w : Writer σ τ} {tally : RunTally}
    (hw : w.window = .closed tally) :
    (w.takeTurn cluster).cluster = w.cluster := by
  unfold takeTurn
  rw [hw]

theorem window_applySettings (cluster : Cluster σ τ) (setup : WriterSetup) (update : SettingsUpdate)
    {w : Writer σ τ} {tally : RunTally} (hw : w.window = .closed tally) :
    (stateAfter (applySettings cluster setup update w)).window = .closed tally := by
  unfold applySettings
  split
  · unfold ask
    dsimp only
    split <;> exact window_takeTurn cluster hw
  · exact hw

theorem openChannel_of_opened (cluster : Cluster σ τ) (setup : WriterSetup) {w : Writer σ τ}
    {channel : Channel τ} (hw : w.window = .opened channel) :
    openChannel cluster setup w = .ok channel w := by
  unfold openChannel
  rw [bind_get, hw]
  rfl

theorem openChannel_of_closed (cluster : Cluster σ τ) (setup : WriterSetup) {w : Writer σ τ}
    {tally : RunTally} (hw : w.window = .closed tally) :
    openChannel cluster setup w =
      let channel : Channel τ :=
        .ofTally setup.index setup.tuning.limits setup.options.backoff tally
      match applySettings cluster setup setup.tuning.windowUpdate w with
      | .ok _ u => .ok channel { u with window := .opened channel }
      | .error e u => .error e u := by
  unfold openChannel
  rw [bind_get, hw]
  dsimp only
  cases hs : applySettings cluster setup setup.tuning.windowUpdate w with
  | ok a u => exact bind_of_ok hs _
  | error e u => exact bind_of_error hs _

theorem add_of_opened (cluster : Cluster σ τ) (setup : WriterSetup) (op : Operation)
    {w : Writer σ τ} {channel : Channel τ} (hw : w.window = .opened channel) :
    add cluster setup op w = .ok () (ofTraffic ((w.traffic channel).add cluster op)) := by
  unfold add
  rw [bind_of_ok (openChannel_of_opened cluster setup hw)]
  rfl

/-- The first operation opens the channel. -/
theorem add_of_closed (cluster : Cluster σ τ) (setup : WriterSetup) (op : Operation)
    {w u : Writer σ τ} {tally : RunTally} (hw : w.window = .closed tally)
    (hs : applySettings cluster setup setup.tuning.windowUpdate w = .ok () u) :
    let channel : Channel τ := .ofTally setup.index setup.tuning.limits setup.options.backoff tally
    add cluster setup op w = .ok () (ofTraffic ((u.traffic channel).add cluster op)) := by
  intro channel
  have opened := openChannel_of_closed cluster setup hw
  rw [hs] at opened
  unfold add
  rw [bind_of_ok opened]
  rfl

/-- The channel is open, or the settings could not be lowered. -/
theorem course_openChannel (cluster : Cluster σ τ) (setup : WriterSetup) {w : Writer σ τ}
    (hw : w.window.AtRest) :
    ∃ h : History, h.taken = [] ∧ h.dropped = [] ∧
      Course (Move cluster) w h (stateAfter (openChannel cluster setup w)) ∧
      (stateAfter (openChannel cluster setup w)).window.AtRest ∧
      ∀ channel u, openChannel cluster setup w = .ok channel u → u.window = .opened channel := by
  cases ho : w.window with
  | opened channel =>
    rw [openChannel_of_opened cluster setup ho]
    refine ⟨[], rfl, rfl, .refl w, hw, ?_⟩
    rintro channel u ⟨⟩
    exact ho
  | closed tally =>
    obtain ⟨h, ht, hd, hc, hr⟩ := quiet_applySettings cluster setup setup.tuning.windowUpdate w hw
    have closed := window_applySettings cluster setup setup.tuning.windowUpdate ho
    rw [openChannel_of_closed cluster setup ho]
    dsimp only
    cases hs : applySettings cluster setup setup.tuning.windowUpdate w with
    | error e u =>
      rw [hs] at hc hr
      refine ⟨h, ht, hd, hc, hr, ?_⟩
      rintro channel v ⟨⟩
    | ok a u =>
      rw [hs] at hc closed
      refine ⟨h, ht, hd, hc.silent (.openWindow closed _ _ _), ⟨rfl, fun _ => rfl⟩, ?_⟩
      rintro channel v ⟨⟩
      rfl

/-- **An operation is written.** It was taken, or the channel could not be opened. -/
theorem course_add (cluster : Cluster σ τ) (setup : WriterSetup) (op : Operation) {w : Writer σ τ}
    (hw : w.window.AtRest) :
    ∃ h : History, Course (Move cluster) w h (stateAfter (add cluster setup op w)) ∧
      (stateAfter (add cluster setup op w)).window.AtRest ∧ h.dropped = [] ∧
      h.taken = match add cluster setup op w with
        | .ok _ _ => [op]
        | .error _ _ => [] := by
  obtain ⟨h, ht, hd, hc, hr, hopened⟩ := course_openChannel cluster setup hw
  unfold add
  cases ho : openChannel cluster setup w with
  | error e u =>
    rw [ho] at hc hr
    rw [bind_of_error ho]
    exact ⟨h, hc, hr, hd, ht⟩
  | ok channel u =>
    rw [ho] at hc hr
    rw [bind_of_ok ho]
    have opened := hopened channel u ho
    have rest : channel.AtRest := by
      have hu : u.window.AtRest := hr
      rwa [opened] at hu
    obtain ⟨g, gc, gt, gd, gr⟩ := Traffic.course_add cluster op (t := u.traffic channel) rest
    refine ⟨h ++ g, hc.trans (course_traffic opened gc), gr, ?_, ?_⟩
    · rw [History.dropped_append, hd, gd]; rfl
    · rw [History.taken_append, ht, gt]; rfl

/-- A window is closed; the answer says whether a batch was given up. -/
theorem course_drain (cluster : Cluster σ τ) (setup : WriterSetup) {w : Writer σ τ}
    (hw : w.window.AtRest) :
    ∃ h : History, Course (Move cluster) w h (drain cluster setup w).2 ∧ h.taken = [] ∧
      ((drain cluster setup w).1.getD true = true ↔ h.dropped = []) ∧
      (drain cluster setup w).2.window = .closed (drain cluster setup w).2.tally := by
  unfold drain
  cases ho : w.window with
  | closed tally =>
    refine ⟨[], .refl w, rfl, by simp [History.dropped], ?_⟩
    show w.window = .closed w.window.tally
    rw [ho]
    rfl
  | opened channel =>
    have rest : (w.traffic channel).channel.AtRest := by rwa [ho] at hw
    obtain ⟨h, hc, ht, he, hd⟩ := Traffic.course_close cluster setup.options.flushTimeout rest
    exact ⟨h, (course_traffic ho hc).silent (.closeWindow rfl he), ht, hd, rfl⟩

/-- What follows on the draining of a window. -/
def endWindow (cluster : Cluster σ τ) (setup : WriterSetup) (drained : Option Bool) :
    EStateM Error (Writer σ τ) Bool := do
  if drained.isSome then applySettings cluster setup setup.tuning.restoreUpdate
  ask cluster (cluster.refreshIndex setup.index)
  return drained.getD true

theorem flush_eq (cluster : Cluster σ τ) (setup : WriterSetup) (w : Writer σ τ) :
    flush cluster setup w = endWindow cluster setup (drain cluster setup w).1
      (drain cluster setup w).2 := rfl

theorem quiet_endWindow (cluster : Cluster σ τ) (setup : WriterSetup) (drained : Option Bool) :
    Quiet cluster (endWindow cluster setup drained) := by
  have refreshed :
    Quiet cluster (do ask cluster (cluster.refreshIndex setup.index); return drained.getD true) :=
    .bind (quiet_ask fun s => .refresh setup.index s) fun _ => .pure cluster _
  unfold endWindow
  split
  · exact .bind (quiet_applySettings cluster setup setup.tuning.restoreUpdate) fun _ => refreshed
  · exact refreshed

theorem answer_endWindow {cluster : Cluster σ τ} {setup : WriterSetup} {drained : Option Bool}
    {w u : Writer σ τ} {answer : Bool} (h : endWindow cluster setup drained w = .ok answer u) :
    answer = drained.getD true := by
  unfold endWindow at h
  split at h
  · obtain ⟨_, _, -, h⟩ := bind_eq_ok h
    obtain ⟨_, _, -, h⟩ := bind_eq_ok h
    cases h
    rfl
  · obtain ⟨_, _, -, h⟩ := bind_eq_ok h
    cases h
    rfl

/-- **A window is flushed.** It is closed then, also where the flush fails; one that works says
whether a batch was given up. -/
theorem course_flush (cluster : Cluster σ τ) (setup : WriterSetup) {w : Writer σ τ}
    (hw : w.window.AtRest) :
    ∃ h : History, Course (Move cluster) w h (stateAfter (flush cluster setup w)) ∧ h.taken = [] ∧
      (stateAfter (flush cluster setup w)).window = .closed
        (stateAfter (flush cluster setup w)).tally ∧
      ∀ drained u, flush cluster setup w = .ok drained u → (drained = true ↔ h.dropped = []) := by
  have isClosed := closed_of_flush cluster setup w
  rw [flush_eq] at isClosed ⊢
  obtain ⟨h, hc, ht, hd, closed⟩ := course_drain cluster setup hw
  obtain ⟨g, gt, gd, gc, -⟩ := quiet_endWindow cluster setup (drain cluster setup w).1
    (drain cluster setup w).2
    (by rw [closed]; trivial)
  refine ⟨h ++ g, hc.trans gc, ?_, ?_, ?_⟩
  · rw [History.taken_append, ht, gt]; rfl
  · unfold tally
    cases ho : (stateAfter
      (endWindow cluster setup (drain cluster setup w).1 (drain cluster setup w).2)).window with
    | closed tally => rfl
    | opened channel => rw [ho] at isClosed; cases isClosed
  · intro drained u hok
    rw [History.dropped_append, gd, List.append_nil, answer_endWindow hok]
    exact hd

end Writer

end Reindex
