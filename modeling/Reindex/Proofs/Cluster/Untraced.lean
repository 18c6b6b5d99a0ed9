import Reindex.Lifecycle
import Reindex.Proofs.Bulk.Prompt
import Reindex.Proofs.Cluster.Reliable
import Reindex.Proofs.Cluster.Traced
import Reindex.Proofs.Writer.Regime

/-!
# Tracing changes nothing

A traced cluster answers as the cluster does and does the same to its state. So what is known of the
cluster is known of the states of the traced one, and a run takes the same course on both. The trace
tells of the bulk calls that the course tells of: each was sent once, and answered once if it was
not given up before.

Main statements: `Lifecycle.mirrors_start` and `Traffic.course_untraced` for what happens to the
state, and `Traffic.calls_of_course` for what is in the trace.
-/

namespace Reindex

variable {σ τ ε α β : Type}

/-! ## Calls -/

namespace Traced

/-- What one call does to a traced state the other does to the state alone, and it gives the same
answer. -/
def Mirrors (x : EStateM ε (Traced σ) α) (y : EStateM ε σ α) : Prop := ∀ w, match x w with
  | .ok a v => y w.state = .ok a v.state
  | .error e v => y w.state = .error e v.state

variable {x : EStateM ε (Traced σ) α} {y : EStateM ε σ α}

theorem mirrors_record (call : ClusterCall) (x : EStateM Failure σ α) :
    Mirrors (record call x) x := by
  intro w
  unfold record
  cases x w.state <;> rfl

theorem Mirrors.of_ok (h : Mirrors x y) {w v : Traced σ} {a : α} (hx : x w = .ok a v) :
    y w.state = .ok a v.state := by
  have same := h w
  rwa [hx] at same

theorem Mirrors.stateAfter (h : Mirrors x y) (w : Traced σ) :
    (Reindex.stateAfter (x w)).state = Reindex.stateAfter (y w.state) := by
  have same := h w
  cases hx : x w <;> (rw [hx] at same; rw [same]; rfl)

theorem Mirrors.worked (h : Mirrors x y) (w : Traced σ) :
    Reindex.worked (x w) = Reindex.worked (y w.state) := by
  have same := h w
  cases hx : x w <;> (rw [hx] at same; rw [same]; rfl)

/-- Where a call leads, its traced counterpart leads. -/
theorem Mirrors.leads (h : Mirrors x y) {P Q E : σ → Prop} (hy : Leads P y Q E) :
    Leads (fun w : Traced σ => P w.state) x (fun w => Q w.state) fun w => E w.state := by
  intro w hw
  have same := h w
  cases hx : x w with
  | ok a v =>
    rw [hx] at same
    exact hy.of_ok hw same
  | error e v =>
    rw [hx] at same
    exact hy.of_error hw same

theorem Mirrors.pure (a : α) : Mirrors (Pure.pure a : EStateM ε (Traced σ) α) (Pure.pure a) :=
  fun _ => rfl

theorem Mirrors.throw (e : ε) : Mirrors (throw e : EStateM ε (Traced σ) α) (throw e) := fun _ => rfl

theorem Mirrors.ofExcept (a : Except ε α) :
    Mirrors (ofExcept a : EStateM ε (Traced σ) α) (ofExcept a) := by
  cases a with
  | ok a => exact .pure a
  | error e => exact .throw e

theorem Mirrors.bind {f : α → EStateM ε (Traced σ) β} {g : α → EStateM ε σ β} (h : Mirrors x y)
    (hf : ∀ a, Mirrors (f a) (g a)) : Mirrors (x >>= f) (y >>= g) := by
  intro w
  have same := h w
  cases hx : x w with
  | ok a v =>
    rw [hx] at same
    rw [bind_of_ok hx, bind_of_ok same]
    exact hf a v
  | error e v =>
    rw [hx] at same
    rw [bind_of_error hx, bind_of_error same]

theorem Mirrors.ite {c : Prop} [Decidable c] {x' : EStateM ε (Traced σ) α} {y' : EStateM ε σ α}
    (h : Mirrors x y) (h' : Mirrors x' y') :
    Mirrors (if c then x else x') (if c then y else y') := by
  split
  · exact h
  · exact h'

theorem Mirrors.call {x : EStateM Failure (Traced σ) α} {y : EStateM Failure σ α}
    (h : Mirrors x y) :
    Mirrors (Reindex.call x) (Reindex.call y) := by
  intro w
  have same := h w
  cases hx : x w with
  | ok a v =>
    rw [hx] at same
    rw [call_of_ok hx, call_of_ok same]
  | error e v =>
    rw [hx] at same
    rw [call_of_error hx, call_of_error same]

end Traced

open Traced (Mirrors mirrors_record)

namespace Lifecycle

/-- **A start on a traced cluster** is the start on the cluster. -/
theorem mirrors_start (cluster : Cluster σ τ) (policy : NamingPolicy) (now : Instant)
    (tuning : Tuning) (payload : IndexPayload) (options : LifecycleOptions) :
    Mirrors (start cluster.traced policy now tuning payload options)
      (start cluster policy now tuning payload options) := by
  have resolves : Mirrors (policy.resolve cluster.traced now) (policy.resolve cluster now) := by
    unfold NamingPolicy.resolve
    cases policy.minting? with
    | some window => exact .ofExcept _
    | none => exact .bind (mirrors_record _ _).call fun table => .ofExcept _
  have ensures (index : String) : Mirrors (ensureIndex cluster.traced index tuning payload options)
      (ensureIndex cluster index tuning payload options) := by
    have creates : Mirrors (do
        call (cluster.traced.createIndex index (managedSettings payload.settings tuning)
          payload.mappings)
        call (cluster.traced.refreshIndex index)
        return true : EStateM Error (Traced σ) Bool) (do
        call (cluster.createIndex index (managedSettings payload.settings tuning) payload.mappings)
        call (cluster.refreshIndex index)
        return true) :=
      .bind (mirrors_record _ _).call fun _ => .bind (mirrors_record _ _).call fun _ => .pure true
    unfold ensureIndex
    refine .bind (mirrors_record _ _).call fun found => .ite ?_ (.ite (.pure false) ?_)
    · exact .ite (.pure false) (.throw _)
    · cases found with
      | false => exact creates
      | true => exact .bind (mirrors_record _ _).call fun _ => creates
  have awaits : Mirrors (awaitHealth cluster.traced options) (awaitHealth cluster options) := by
    unfold awaitHealth
    exact .bind (mirrors_record _ _).call fun report => .ite (.throw _) (.pure ())
  unfold start
  exact .bind resolves fun identity => .bind (ensures identity.index) fun created =>
    .bind awaits fun _ => .pure _

theorem start_untraced {cluster : Cluster σ τ} {policy : NamingPolicy} {now : Instant}
    {tuning : Tuning} {payload : IndexPayload} {options : LifecycleOptions} {w v : Traced σ}
    {l : Lifecycle} (h : start cluster.traced policy now tuning payload options w = .ok l v) :
    start cluster policy now tuning payload options w.state = .ok l v.state :=
  (mirrors_start cluster policy now tuning payload options).of_ok h

end Lifecycle

/-! ## What is known of the cluster -/

namespace Cluster

variable {cluster : Cluster σ τ} {P : σ → Prop}

theorem Carries.traced (h : cluster.Carries P) : cluster.traced.Carries fun w => P w.state where
  beginBulk now index ops w hw := h.beginBulk now index ops w.state hw
  finishBulk ticket index ops w hw := h.finishBulk ticket index ops w.state hw

theorem Serves.untraced {w v : Traced σ} (h : cluster.traced.Serves w v) :
    cluster.Serves w.state v.state := by
  cases h with
  | refresh index =>
    rw [show (stateAfter (cluster.traced.refreshIndex index w)).state =
      _ from (mirrors_record _ _).stateAfter w]
    exact .refresh index _
  | settings index update =>
    rw [show (stateAfter (cluster.traced.updateSettings index update w)).state = _ from
      (mirrors_record _ _).stateAfter w]
    exact .settings index update _
  | read index id =>
    rw [show (stateAfter (cluster.traced.getDocument index id w)).state =
      _ from (mirrors_record _ _).stateAfter w]
    exact .read index id _
  | store index id body =>
    rw [show (stateAfter (cluster.traced.putDocument index id body w)).state = _ from
      (mirrors_record _ _).stateAfter w]
    exact .store index id body _

theorem Steady.traced (h : cluster.Steady P) : cluster.traced.Steady fun w => P w.state where
  beginBulk := h.carries.traced.beginBulk
  finishBulk := h.carries.traced.finishBulk
  serves served hw := h.serves served.untraced hw

theorem Reliable.traced {index : String} (h : cluster.Reliable index P) :
    cluster.traced.Reliable index fun w => P w.state where
  steady := h.steady.traced
  refresh w hw := ((mirrors_record _ _).worked w).trans (h.refresh w.state hw)
  settings update w hw := ((mirrors_record _ _).worked w).trans (h.settings update w.state hw)
  read id w hw := ((mirrors_record _ _).worked w).trans (h.read id w.state hw)
  store id body w hw := ((mirrors_record _ _).worked w).trans (h.store id body w.state hw)

end Cluster

/-- The regime of the states alone. -/
def Regime.traced (r : Regime σ) : Regime (Traced σ) :=
  ⟨fun w => r.closed w.state, fun w => r.opened w.state⟩

theorem Cluster.Follows.traced {cluster : Cluster σ τ} {setup : WriterSetup} {r e : Regime σ}
    (h : cluster.Follows setup r e) : cluster.traced.Follows setup r.traced e.traced := by
  have manages (update : SettingsUpdate) : Mirrors (cluster.traced.manage setup update)
    (cluster.manage setup update) :=
    .ite (mirrors_record _ _) (.pure ())
  exact
    { carries := h.carries.traced
      lower := (manages _).leads h.lower
      restore := (manages _).leads h.restore
      refresh := (mirrors_record _ _).leads h.refresh
      read := fun id =>
        ⟨(mirrors_record _ _).leads (h.read id).closed,
          (mirrors_record _ _).leads (h.read id).opened⟩
      store := fun id body =>
        ⟨(mirrors_record _ _).leads (h.store id body).closed,
          (mirrors_record _ _).leads (h.store id body).opened⟩
      decides :=
        { indexExists := fun index => (mirrors_record _ _).leads (h.decides.indexExists index)
          aliases := fun lookup => (mirrors_record _ _).leads (h.decides.aliases lookup)
          updateAliases :=
            fun actions => (mirrors_record _ _).leads (h.decides.updateAliases actions)
          given := fun w => h.decides.given w.state } }

/-! ## Flights -/

namespace Flight

theorem step_untraced (cluster : Cluster σ τ) (index : String) (now : Nat) (f : Flight τ)
    (w : Traced σ) :
    f.step cluster index now w.state =
      ((f.step cluster.traced index now w).1, (f.step cluster.traced index now w).2.state) := by
  unfold step
  cases f.phase <;> rfl

theorem run_untraced (cluster : Cluster σ τ) (index : String) (now : Nat) (f : Flight τ)
    (w : Traced σ) :
    f.run cluster index now w.state =
      ((f.run cluster.traced index now w).1, (f.run cluster.traced index now w).2.state) := by
  fun_induction run cluster.traced index now f w with
  | case1 f w landing v step =>
    have same := step_untraced cluster index now f w
    rw [step] at same
    exact run_of_landed same
  | case2 f w g v step later =>
    have same := step_untraced cluster index now f w
    rw [step] at same
    exact run_of_later same later
  | case3 f w g v step due ih =>
    have same := step_untraced cluster index now f w
    rw [step] at same
    exact (run_of_airborne same (Nat.not_lt.1 due)).trans ih

end Flight

theorem Cluster.Prompt.traced {cluster : Cluster σ τ} {P : σ → Prop} (h : cluster.Prompt P) :
    cluster.traced.Prompt fun w => P w.state where
  carries := h.carries.traced
  lands index now f w hw sending := by
    obtain ⟨landing, d, landed⟩ := h.lands index now f w.state hw sending
    have same := Flight.run_untraced cluster index now f w
    rw [landed] at same
    exact ⟨landing, _, Prod.ext (congrArg Prod.fst same).symm rfl⟩

/-! ## Courses -/

namespace Traffic

/-- The channel on the cluster alone. -/
def untraced (t : Traffic (Traced σ) τ) : Traffic σ τ :=
  { channel := t.channel, now := t.now, cluster := t.cluster.state, allowance := t.allowance }

variable {cluster : Cluster σ τ} {t u : Traffic (Traced σ) τ} {h g : History}

theorem Move.untraced (hm : Move cluster.traced t h u) : Move cluster t.untraced h u.untraced := by
  cases hm with
  | wait now allowance => exact .wait t.untraced now allowance
  | take op => exact .take t.untraced op
  | cut hw hb => exact Move.cut (t := t.untraced) hw hb
  | launch now hr => exact Move.launch (t := t.untraced) now hr
  | reorder hp => exact Move.reorder (t := t.untraced) hp
  | book hl => exact Move.book (t := t.untraced) hl
  | dropWaiting hw => exact Move.dropWaiting (t := t.untraced) hw
  | dropFlight hf => exact Move.dropFlight (t := t.untraced) hf
  | send now hf hp hb =>
    have begun := congrArg (fun r => (r.1, r.2.state)) hb
    exact Move.send (t := t.untraced) now hf hp begun
  | resend now hf hp ha hg =>
    have ended := congrArg (fun r => (r.1, r.2.state)) ha
    exact Move.resend (t := t.untraced) now hf hp ended hg
  | land now hf hp ha hl =>
    have ended := congrArg (fun r => (r.1, r.2.state)) ha
    exact Move.land (t := t.untraced) now hf hp ended hl

/-- **A course on a traced cluster** is a course on the cluster. -/
theorem course_untraced (hc : Course (Move cluster.traced) t h u) :
    Course (Move cluster) t.untraced h u.untraced := by
  induction hc with
  | refl => exact .refl _
  | tail _ hm ih => exact ih.tail hm.untraced

end Traffic

/-! ## Bulk calls -/

/-- A flight that was sent and not answered yet, as a bulk call into an index. -/
def Flight.awaited? (index : String) (f : Flight τ) : Option (String × List Operation) :=
  match f.phase with
  | .sending => none
  | .awaiting _ => some (index, f.submission.attempt)

/-- The bulk calls that a history tells of, into an index. -/
def History.calls (index : String) (h : History) : List (String × List Operation) :=
  h.answers.map fun a => (index, a.1)

namespace Traffic

/-- The trace tells of the bulk calls that the history tells of. As long as nothing is given up,
what was sent besides is under way. -/
structure Reported (base : List ClusterEvent) (index : String) (h : History)
    (t : Traffic (Traced σ) τ) : Prop where
  into : t.channel.index = index
  answered : answeredCalls t.cluster.trace = answeredCalls base ++ h.calls index
  sent : h.dropped = [] → (sentCalls t.cluster.trace).Perm
    (sentCalls base ++ (h.calls index ++ t.channel.flights.filterMap (Flight.awaited? index)))

variable {cluster : Cluster σ τ} {base : List ClusterEvent} {index : String}
    {t u : Traffic (Traced σ) τ} {h g : History}

/-- A move that makes no call. -/
theorem Reported.silent (before : Reported base index h t) (heard : g.answers = [])
    (into : u.channel.index = t.channel.index) (behind : u.cluster = t.cluster)
    (awaited : (h ++ g).dropped = [] →
      (u.channel.flights.filterMap (Flight.awaited? index)).Perm
        (t.channel.flights.filterMap (Flight.awaited? index))) :
    Reported base index (h ++ g) u := by
  have same : (h ++ g).calls index = h.calls index := by
    unfold History.calls
    rw [History.answers_append, heard, List.append_nil]
  refine ⟨into.trans before.into, ?_, fun kept => ?_⟩
  · rw [behind, same, before.answered]
  · rw [behind, same]
    have none : h.dropped = [] := by
      rw [History.dropped_append] at kept
      exact (List.append_eq_nil_iff.1 kept).1
    exact (before.sent none).trans (((awaited kept).symm.append_left _).append_left _)

/-- An answer comes to the flight in front, which awaits it no more. -/
theorem Reported.heard (before : Reported base index h t) {f : Flight τ} {rest fs : List (Flight τ)}
    {ticket : τ} {answer : BulkAnswer} {s : Traced σ} {ls : List Landing}
    (hf : t.channel.flights = f :: rest) (hp : f.phase = .awaiting ticket)
    (ha : cluster.traced.finishBulk ticket t.channel.index f.submission.attempt t.cluster =
      (answer, s))
    (others : fs.filterMap (Flight.awaited? index) = rest.filterMap (Flight.awaited? index))
    (told : g.answers = [(f.submission.attempt, answer)]) (kept : g.dropped = []) :
    Reported base index (h ++ g) (t.flown s fs ls) := by
  have event : s.trace = t.cluster.trace ++ [⟨.finishBulk index f.submission.attempt, true⟩] := by
    rw [← before.into]
    exact (congrArg (fun r => r.2.trace) ha).symm
  have calls : (h ++ g).calls index = h.calls index ++ [(index, f.submission.attempt)] := by
    unfold History.calls
    rw [History.answers_append, told, List.map_append]
    rfl
  refine ⟨before.into, ?_, fun none => ?_⟩
  · show answeredCalls s.trace = _
    rw [event, answeredCalls_append, before.answered, calls, List.append_assoc]
    rfl
  · show (sentCalls s.trace).Perm (_ ++ (_ ++ fs.filterMap _))
    rw [History.dropped_append, kept, List.append_nil] at none
    have awaited := before.sent none
    have own : f.awaited? index = some (index, f.submission.attempt) := by
      unfold Flight.awaited?
      rw [hp]
    rw [hf, List.filterMap_cons, own] at awaited
    rw [event, sentCalls_append, calls, others, List.append_assoc]
    exact (List.append_nil _).symm ▸ awaited

/-- **One move.** -/
theorem reported_move (before : Reported base index h t) (hm : Move cluster.traced t g u) :
    Reported base index (h ++ g) u := by
  cases hm with
  | wait now allowance => exact before.silent rfl rfl rfl fun _ => .refl _
  | take op => exact before.silent rfl rfl rfl fun _ => .refl _
  | cut hw hb => exact before.silent rfl rfl rfl fun _ => .refl _
  | book hl => exact before.silent rfl rfl rfl fun _ => .refl _
  | dropWaiting hw => exact before.silent rfl rfl rfl fun _ => .refl _
  | reorder hp => exact before.silent rfl rfl rfl fun _ => hp.filterMap _
  | dropFlight hf =>
    refine before.silent rfl rfl rfl fun kept => ?_
    rw [History.dropped_append] at kept
    cases (List.append_eq_nil_iff.1 kept).2
  | launch now hr =>
    refine before.silent rfl ?_ rfl fun _ => ?_
    · show (t.channel.launch now).index = t.channel.index
      unfold Channel.launch
      cases t.channel.waiting <;> rfl
    · show ((t.channel.launch now).flights.filterMap _).Perm _
      unfold Channel.launch
      cases t.channel.waiting with
      | none => exact .refl _
      | some ops =>
        rw [List.filterMap_append]
        exact .of_eq (List.append_nil _)
  | @send f rest wait ticket s now hf hp hb =>
    have event : s.trace = t.cluster.trace ++ [⟨.beginBulk index f.submission.attempt, true⟩] := by
      rw [← before.into]
      exact (congrArg (fun r => r.2.trace) hb).symm
    rw [List.append_nil]
    refine ⟨before.into, ?_, fun none => ?_⟩
    · show answeredCalls s.trace = _
      rw [event, answeredCalls_append, before.answered]
      exact List.append_nil _
    · have awaited := before.sent none
      have own : f.awaited? index = Option.none := by
        unfold Flight.awaited?
        rw [hp]
      rw [hf, List.filterMap_cons, own] at awaited
      show (sentCalls s.trace).Perm (_ ++ (_ ++ (index, f.submission.attempt) :: rest.filterMap _))
      rw [event, sentCalls_append]
      refine (awaited.append_right _).trans (List.perm_iff_count.2 fun call => ?_)
      simp only [List.count_append, List.count_cons, sentCalls, List.filterMap_cons,
        ClusterEvent.sent?, List.filterMap_nil, List.count_nil]
      omega
  | @resend f f' rest ticket answer s now hf hp ha hg =>
    refine before.heard hf hp ha ?_ rfl rfl
    have sending : f'.phase = .sending := by
      unfold Flight.hear at hg
      split at hg <;> cases hg
      rfl
    rw [List.filterMap_cons]
    unfold Flight.awaited?
    rw [sending]
  | land now hf hp ha hl => exact before.heard hf hp ha rfl rfl rfl

/-- **The bulk calls of a channel** from one time at which nothing is under way to another, if
nothing is given up: those that the history tells of, each of them sent and answered. -/
theorem calls_of_course (course : Course (Move cluster.traced) t h u)
    (idle : t.channel.flights = []) (empty : u.channel.flights = []) (kept : h.dropped = []) :
    answeredCalls u.cluster.trace = answeredCalls t.cluster.trace ++ h.calls t.channel.index ∧
      (sentCalls u.cluster.trace).Perm (sentCalls t.cluster.trace ++ h.calls t.channel.index) := by
  have start : Reported t.cluster.trace t.channel.index [] t :=
    ⟨rfl, (List.append_nil _).symm, fun _ => by rw [idle]; exact .of_eq (List.append_nil _).symm⟩
  have reported : Reported t.cluster.trace t.channel.index h u :=
    course.invariant start reported_move
  refine ⟨reported.answered, ?_⟩
  have sent := reported.sent kept
  rw [empty, List.filterMap_nil, List.append_nil] at sent
  exact sent

end Traffic

end Reindex
