import Reindex.Cluster.Memory
import Reindex.Proofs.Bulk.Conservation
import Reindex.Proofs.Bulk.Schedule

/-!
# Where an operation is

An operation that a channel took is in its buffer, in the batch that waits for room, in a flight, in
a batch that ended and is not booked, in one that is booked, or in one that was dropped; and it is
in one of these places only. Batches are dropped once a closing ran out of time, and not before:
those that have not ended are given up, and the end of one that ends at that very moment may be
thrown away before it is booked. A stride is a move of a channel together with how far the channel
has come, so that it says when operations are taken and when batches may be dropped.

Main statement: `Traffic.single_location`. It holds at every point of every course of strides,
whatever the order in which flights go on and land, and what a channel's owner does are such
courses.
-/

namespace Reindex

variable {σ τ : Type}

namespace History

/-- The ends that left their channel, oldest first, and whether they were booked. -/
def outcomes (h : History) : List (Landing × Bool) := h.filterMap fun
  | .booked landing => some (landing, true)
  | .discarded landing => some (landing, false)
  | _ => none

@[simp] theorem outcomes_append (h g : History) : outcomes (h ++ g) = outcomes h ++ outcomes g :=
  List.filterMap_append

theorem length_outcomes (h : History) :
    h.outcomes.length = h.booked.length + h.discarded.length := by
  unfold outcomes booked discarded
  induction h with
  | nil => rfl
  | cons event h ih => cases event <;> simp [ih] <;> omega

/-- The operations of the batches that are booked. Ends leave a channel in the order in which they
came. -/
def accounted (h : History) : List Operation :=
  (h.landings.zip h.outcomes).flatMap fun e => if e.2.2 then e.1.1 else []

/-- The operations of the batches that ended too late, so that their ends were thrown away. -/
def wasted (h : History) : List Operation :=
  (h.landings.zip h.outcomes).flatMap fun e => if e.2.2 then [] else e.1.1

/-- The operations of the batches that ended and whose ends are still to be booked. -/
def finished (h : History) : List Operation := (h.landings.drop h.outcomes.length).flatMap Prod.fst

/-- That an end was thrown away tells nothing else. -/
theorem thrown (h : History) (landing : Landing) :
    let g : History := h ++ [.discarded landing]
    g.taken = h.taken ∧ g.landings = h.landings ∧ g.dropped = h.dropped :=
  ⟨(taken_append h _).trans (List.append_nil _), (landings_append h _).trans (List.append_nil _),
    (dropped_append h _).trans (List.append_nil _)⟩

/-- The end of a batch is booked, is thrown away, or is still to be booked. -/
theorem ended_perm_outcomes (h : History) :
    h.ended.Perm (h.finished ++ (h.accounted ++ h.wasted)) := by
  refine List.perm_iff_count.2 fun op => ?_
  unfold ended accounted wasted finished
  generalize h.landings = es
  generalize h.outcomes = outs
  simp only [List.count_append]
  induction es generalizing outs with
  | nil => simp
  | cons e es ih =>
    cases outs with
    | nil => simp
    | cons out outs =>
      have rest := ih outs
      simp only [List.flatMap_cons, List.count_append, List.zip_cons_cons, List.length_cons,
        List.drop_succ_cons]
      cases out.2 <;> simp <;> omega

end History

namespace Channel

/-- How many batches were cut and have not ended. -/
def underway (c : Channel τ) : Nat := c.waiting.toList.length + c.flights.length

/-- The waiting batch is given up. -/
def forget (c : Channel τ) : Channel τ := { c with waiting := none }

theorem forget_of_waiting {c : Channel τ} (hw : c.waiting = none) : c.forget = c := by
  obtain ⟨⟩ := c
  subst hw
  rfl

end Channel

/-- How far a channel has come. -/
inductive Stage where
  | writing
  /-- It is being closed, and by this time all batches are to be booked. -/
  | closing (deadline : Nat)
  /-- It was closed, and by then not all of them were. -/
  | expired
deriving DecidableEq, Repr

namespace Traffic

/-- One stride of a channel on its way from the first operation to its end. Operations are taken
until it is closed; when its time has run out, batches are given up, and the ends of batches are
thrown away. -/
inductive Stride (cluster : Cluster σ τ) :
    Traffic σ τ × Stage → History → Traffic σ τ × Stage → Prop
  | move {t u : Traffic σ τ} {h : History} {stage : Stage} (hm : Move cluster t h u)
      (taking : stage = .writing ∨ h.taken = []) (dropping : stage = .expired ∨ h.dropped = []) :
      Stride cluster (t, stage) h (u, stage)
  | close (t : Traffic σ τ) (timeout : Nat) :
      Stride cluster (t, .writing) [] (t, .closing (t.now + timeout))
  | expire (t : Traffic σ τ) {deadline now : Nat} (late : deadline ≤ now) :
      Stride cluster (t, .closing deadline) [] ({ t with now }, .expired)
  | discard {t : Traffic σ τ} {landing : Landing} {rest : List Landing}
      (hl : t.channel.landed = landing :: rest) :
      Stride cluster (t, .expired) [.discarded landing] (t.onChannel fun c =>
        { c with landed := rest }, .expired)

/-! ## One move -/

namespace Move

variable {cluster : Cluster σ τ} {t u : Traffic σ τ} {h : History}

theorem limits (hm : Move cluster t h u) : u.channel.limits = t.channel.limits := by
  cases hm with
  | launch now _ =>
    unfold onChannel Channel.launch
    dsimp only
    split <;> rfl
  | _ => rfl

/-- No move throws an end away. -/
theorem discarded (hm : Move cluster t h u) :
    h.discarded = [] ∧ h.outcomes.map Prod.fst = h.booked := by
  cases hm <;> exact ⟨rfl, rfl⟩

/-- A batch that was cut is under way, has ended or was given up. -/
theorem batches (hm : Move cluster t h u) :
    u.channel.dispatched + t.channel.underway =
      t.channel.dispatched + u.channel.underway + h.landings.length + h.dropped.length := by
  unfold Channel.underway
  cases hm with
  | cut hw hb =>
    simp [onChannel, Channel.cut, hw, History.landings, History.dropped]
    omega
  | launch now hr =>
    cases hw : t.channel.waiting with
    | none => simp [onChannel, Channel.launch, hw, History.landings, History.dropped]
    | some ops =>
      simp [onChannel, Channel.launch, hw, History.landings, History.dropped]
      omega
  | reorder hp => simp [flown, hp.length_eq, History.landings, History.dropped]
  | send now hf hp hb => simp [flown, hf, History.landings, History.dropped]
  | resend now hf hp ha hg => simp [flown, hf, History.landings, History.dropped]
  | land now hf hp ha hl =>
    simp [flown, hf, History.landings, History.dropped]
    omega
  | dropWaiting hw =>
    simp [onChannel, hw, History.landings, History.dropped]
    omega
  | dropFlight hf =>
    simp [onChannel, hf, History.landings, History.dropped]
    omega
  | _ => simp [onChannel, Channel.push, History.landings, History.dropped]

/-- A batch is let go only where there is room for one. -/
theorem bounded (ht : t.channel.flights.length ≤ max t.channel.limits.concurrent 1)
    (hm : Move cluster t h u) :
    u.channel.flights.length ≤ max t.channel.limits.concurrent 1 := by
  cases hm with
  | launch now hr =>
    have room : t.channel.flights.length < max t.channel.limits.concurrent 1 := of_decide_eq_true hr
    unfold onChannel Channel.launch
    dsimp only
    split
    · exact ht
    · rw [List.length_append, List.length_singleton]
      exact room
  | reorder hp =>
    show List.length _ ≤ _
    rw [flown, hp.length_eq]
    exact ht
  | send now hf hp hb =>
    rw [hf] at ht
    exact ht
  | resend now hf hp ha hg =>
    rw [hf] at ht
    exact ht
  | land now hf hp ha hl =>
    rw [hf] at ht
    exact Nat.le_of_succ_le ht
  | dropFlight hf =>
    rw [hf] at ht
    exact Nat.le_of_succ_le ht
  | _ => exact ht

end Move

/-! ## One place for each operation -/

/-- Where the operations and the batches of a channel are that has come this far, with this
history. -/
structure Located (limits : BatchLimits) (stage : Stage) (h : History) (c : Channel τ) : Prop where
  /-- Each operation that was taken is in one of six places. The last is that of the operations that
  were dropped. -/
  places : h.taken.Perm
    (c.buffer.toList ++ (c.waiting.getD [] ++ (c.flights.flatMap Flight.operations ++
    (h.finished ++ (h.accounted ++ (h.givenUp ++ h.wasted))))))
  /-- Of the batches that were let go no more are unanswered than may be. -/
  bounded : c.flights.length ≤ max limits.concurrent 1
  /-- What ended and is still to be booked is what the channel keeps for booking. -/
  unbooked : c.landed = (h.landings.drop h.outcomes.length).map Prod.snd
  batches : c.dispatched =
    c.waiting.toList.length + c.flights.length + c.landed.length + h.booked.length +
      (h.dropped.length + h.discarded.length)
  spared : stage ≠ .expired → h.dropped = [] ∧ h.discarded = []

/-- What every stride keeps. -/
structure Tracked (limits : BatchLimits) (stage : Stage) (h : History) (c : Channel τ) : Prop where
  limits : c.limits = limits
  conserved : h.taken.Perm (c.held ++ (h.ended ++ h.givenUp))
  left : h.landings.map Prod.snd = h.outcomes.map Prod.fst ++ c.landed
  batches : c.dispatched = c.underway + h.landings.length + h.dropped.length
  bounded : c.flights.length ≤ max c.limits.concurrent 1
  spared : stage ≠ .expired → h.dropped = [] ∧ h.discarded = []

variable {limits : BatchLimits} {stage : Stage} {h : History}

theorem Tracked.located {c : Channel τ} (hc : Tracked limits stage h c) :
    Located limits stage h c := by
  have length : h.landings.length = h.booked.length + h.discarded.length + c.landed.length := by
    rw [← List.length_map Prod.snd, hc.left, List.length_append, List.length_map, h.length_outcomes]
  refine ⟨?_, hc.limits ▸ hc.bounded, ?_, ?_, hc.spared⟩
  · refine List.perm_iff_count.2 fun op => ?_
    have counted := hc.conserved.count_eq op
    have ended := h.ended_perm_outcomes.count_eq op
    simp only [List.count_append, Channel.count_held] at counted ended ⊢
    omega
  · rw [List.map_drop, hc.left, ← List.length_map Prod.fst, List.drop_left]
  · rw [hc.batches, length, Channel.underway]
    omega

theorem Tracked.opened (index : String) (limits : BatchLimits) (backoff : BackoffPolicy)
    (tally : RunTally) :
    Tracked limits .writing [] (.ofTally index limits backoff tally : Channel τ) where
  limits := rfl
  conserved := .refl _
  left := rfl
  batches := rfl
  bounded := Nat.zero_le _
  spared _ := ⟨rfl, rfl⟩

variable {cluster : Cluster σ τ}

/-- **One stride** keeps track of everything. -/
theorem Tracked.stride {a b : Traffic σ τ × Stage} {g : History}
    (ha : Tracked limits a.2 h a.1.channel) (hs : Stride cluster a g b) :
    Tracked limits b.2 (h ++ g) b.1.channel := by
  cases hs with
  | @move t u g stage hm taking dropping =>
    refine ⟨hm.limits.trans ha.limits, ?_, ?_, ?_, ?_, fun running => ⟨?_, ?_⟩⟩
    · refine List.perm_iff_count.2 fun op => ?_
      have before := ha.conserved.count_eq op
      have moved := hm.conserves.count_eq op
      simp only [List.count_append, History.taken_append, History.ended_append,
        History.givenUp_append] at before moved ⊢
      omega
    · rw [History.landings_append, List.map_append, ha.left, History.outcomes_append,
        List.map_append, hm.discarded.2, List.append_assoc, List.append_assoc]
      exact congrArg _ hm.books.1
    · have before := ha.batches
      have moved := hm.batches
      simp only [History.landings_append, History.dropped_append, List.length_append]
        at before moved ⊢
      omega
    · rw [hm.limits]
      exact hm.bounded ha.bounded
    · rw [History.dropped_append, (ha.spared running).1, dropping.resolve_left running]
      rfl
    · rw [History.discarded_append, (ha.spared running).2, hm.discarded.1]
      rfl
  | close t timeout =>
    rw [List.append_nil]
    exact ⟨ha.limits, ha.conserved, ha.left, ha.batches, ha.bounded, fun _ => ha.spared (by simp)⟩
  | expire t late =>
    rw [List.append_nil]
    exact ⟨ha.limits, ha.conserved, ha.left, ha.batches, ha.bounded, fun running =>
      absurd rfl running⟩
  | @discard t landing rest hl =>
    -- the batch ended before, and only its end goes
    obtain ⟨taken, landings, dropped⟩ := h.thrown landing
    refine ⟨ha.limits, ?_, ?_, ?_, ha.bounded, fun running => absurd rfl running⟩
    · unfold History.ended History.givenUp
      rw [taken, landings, dropped]
      exact ha.conserved
    · have left := ha.left
      rw [hl] at left
      rw [landings, left, History.outcomes_append, List.map_append, List.append_assoc]
      rfl
    · rw [landings, dropped]
      exact ha.batches

/-- So does every course of strides. -/
theorem Tracked.strides {a b : Traffic σ τ × Stage} (ha : Tracked limits a.2 [] a.1.channel)
    (hc : Course (Stride cluster) a h b) : Tracked limits b.2 h b.1.channel :=
  hc.invariant (I := fun h b => Tracked limits b.2 h b.1.channel) ha fun hb hs => hb.stride hs

/-! ## What a channel's owner does -/

/-- A course of moves as one of strides. -/
theorem strides_of_course {t u : Traffic σ τ} (hc : Course (Move cluster) t h u)
    (taking : stage = .writing ∨ h.taken = []) (dropping : stage = .expired ∨ h.dropped = []) :
    Course (Stride cluster) (t, stage) h (u, stage) := by
  induction hc with
  | refl => exact .refl _
  | @tail u v h g before hm ih =>
    rw [History.taken_append, List.append_eq_nil_iff] at taking
    rw [History.dropped_append, List.append_eq_nil_iff] at dropping
    have first := ih (taking.imp id And.left) (dropping.imp id And.left)
    exact first.tail (.move hm (taking.imp id And.right) (dropping.imp id And.right))

/-- What the owner of a channel does before he closes it. -/
inductive Deed where
  | add (op : Operation)
  /-- Nothing until a time, when the batches that are due have a turn. -/
  | rest (till : Nat)

/-- The operations that deeds add. -/
def Deed.added (deeds : List Deed) : List Operation := deeds.filterMap fun
  | .add op => some op
  | .rest _ => none

/-- One deed. -/
def operate (cluster : Cluster σ τ) (t : Traffic σ τ) : Deed → Traffic σ τ
  | .add op => t.add cluster op
  | .rest till => turn cluster { t with now := max t.now till }

/-- A channel between two deeds: it is at rest, and where each batch is waited for, all that ended
is booked. -/
structure Settled (t : Traffic σ τ) : Prop where
  atRest : t.channel.AtRest
  inline : t.channel.isInline = true → t.channel.landed = []

theorem landed_dispatch {tooLate : Nat → Bool} {t : Traffic σ τ} (hi : t.channel.isInline = true)
    (hl : t.channel.landed = []) : (dispatch cluster tooLate t).2.channel.landed = [] := by
  have reaped : t.reap.channel = t.channel := book_of_no_landed hl _
  unfold dispatch
  dsimp only
  split
  · rw [reaped, hl]
  · have inline : (t.reap.onChannel Channel.cut).channel.isInline = true := hi
    unfold release
    rw [if_pos inline]
    rfl

theorem isInline_of_limits {c d : Channel τ} (h : d.limits = c.limits) :
    d.isInline = c.isInline := by
  unfold Channel.isInline
  rw [h]

theorem limits_of_course {t u : Traffic σ τ} (hc : Course (Move cluster) t h u) :
    u.channel.limits = t.channel.limits :=
  hc.invariant (I := fun _ u => u.channel.limits = t.channel.limits) rfl fun before hm =>
    hm.limits.trans before

/-- **One deed** is a course of strides, and the channel is settled again. -/
theorem strides_operate (cluster : Cluster σ τ) (deed : Deed) {t : Traffic σ τ} (ht : t.Settled) :
    ∃ h : History, Course (Stride cluster) (t, .writing) h (operate cluster t deed, .writing) ∧
      h.taken = Deed.added [deed] ∧ (operate cluster t deed).Settled := by
  cases deed with
  | add op =>
    obtain ⟨h, course, taken, dropped, rest⟩ := course_add cluster op ht.atRest
    refine ⟨h, strides_of_course course (.inl rfl) (.inr dropped), taken, rest, fun hi => ?_⟩
    have inline : t.channel.isInline = true :=
      (isInline_of_limits (limits_of_course course)).symm.trans hi
    unfold operate add
    dsimp only
    split
    · exact landed_dispatch (t := t.onChannel (·.push op)) inline (ht.inline inline)
    · exact ht.inline inline
  | rest till =>
    let later : Traffic σ τ := { t with now := max t.now till }
    obtain ⟨h, flights, course⟩ := course_turn cluster later
    refine ⟨h, strides_of_course (.head (.wait t later.now t.allowance) course) (.inl rfl)
      (.inr flights.dropped),
      flights.taken, atRest_turn cluster (t := later) ht.atRest, fun hi => ?_⟩
    show t.channel.landed ++ (Flight.runSome cluster _ _ _ t.channel.flights _).1.landed = []
    rw [ht.inline hi, ht.atRest.inline hi]
    rfl

/-- So are deeds one after another. -/
theorem strides_operateAll (cluster : Cluster σ τ) (deeds : List Deed) {t : Traffic σ τ}
    (ht : t.Settled) :
    ∃ h : History, Course (Stride cluster) (t, .writing) h
      (deeds.foldl (operate cluster) t, .writing) ∧
      h.taken = Deed.added deeds ∧ (deeds.foldl (operate cluster) t).Settled := by
  induction deeds generalizing t with
  | nil => exact ⟨[], .refl _, rfl, ht⟩
  | cons deed deeds ih =>
    obtain ⟨h, course, taken, settled⟩ := strides_operate cluster deed ht
    obtain ⟨g, course', taken', settled'⟩ := ih settled
    refine ⟨h ++ g, course.trans course', ?_, settled'⟩
    rw [History.taken_append, taken, taken']
    unfold Deed.added
    rw [← List.filterMap_append]
    rfl

/-! ## The end of a channel -/

/-- What a closing comes to before its last bookings: the buffer is let go, and all that is under
way is waited for. -/
def drained (cluster : Cluster σ τ) (tooLate : Nat → Bool) (t : Traffic σ τ) : Bool × Traffic σ τ :=
  let sent := dispatch cluster tooLate t
  if sent.1 then await cluster Channel.isIdle tooLate sent.2 else sent

/-- The traffic was led to `u` with nothing taken or given up, and `v` is `u` without the batch that
waits, if one does. -/
structure Forgot (cluster : Cluster σ τ) (t v : Traffic σ τ) (h : History) (u : Traffic σ τ) :
    Prop where
  course : Course (Move cluster) t h u
  taken : h.taken = []
  dropped : h.dropped = []
  buffer : u.channel.buffer = #[]
  left : v = u.onChannel Channel.forget

theorem Forgot.of_nothing_waiting {t u : Traffic σ τ} (course : Course (Move cluster) t h u)
    (taken : h.taken = []) (dropped : h.dropped = []) (buffer : u.channel.buffer = #[])
    (waiting : u.channel.waiting = none) :
    Forgot cluster t u h u :=
  ⟨course, taken, dropped, buffer, by rw [onChannel, Channel.forget_of_waiting waiting]⟩

theorem Forgot.after {t t' u v : Traffic σ τ} {g : History} (hc : Course (Move cluster) t h t')
    (taken : h.taken = []) (dropped : h.dropped = []) (hr : Forgot cluster t' v g u) :
    Forgot cluster t v (h ++ g) u where
  course := hc.trans hr.course
  taken := by rw [History.taken_append, taken, hr.taken]; rfl
  dropped := by rw [History.dropped_append, dropped, hr.dropped]; rfl
  buffer := hr.buffer
  left := hr.left

theorem forgot_release {tooLate : Nat → Bool} {t : Traffic σ τ} {ops : List Operation}
    (hw : t.channel.waiting = some ops) (hb : t.channel.buffer = #[])
    (hf : t.channel.isInline = true → t.channel.flights = [])
    (late : (release cluster tooLate t).1 = false) :
    ∃ h u, Forgot cluster t (release cluster tooLate t).2 h u := by
  cases hi : t.channel.isInline with
  | true =>
    -- the batch was let go and is under way; what ended meanwhile is booked
    obtain ⟨lw, lb, -⟩ := launch_of_waiting hw t.now
    let launched := t.onChannel (Channel.launch t.now)
    obtain ⟨h, flights, course⟩ := course_await cluster Channel.isIdle tooLate launched
    have ground := ground_await cluster Channel.isIdle tooLate launched
    let ended := launched.await cluster Channel.isIdle tooLate
    have released :
      release cluster tooLate t = (ended.1, ended.2.onChannel Channel.bookLanded) := by
      unfold release
      rw [if_pos hi]
    have booked := History.of_bookings ended.2.channel.landed
    have course := (Course.head (.launch t.now (hasRoom_of_no_flights (hf hi))) course).trans
      (course_bookLanded cluster ended.2)
    rw [released]
    refine ⟨_, _,
      .of_nothing_waiting course ?_ ?_ ((congrArg Channel.buffer ground).trans (lb.trans hb))
      ((congrArg Channel.waiting ground).trans lw)⟩
    · rw [History.taken_append, flights.taken, booked.1]; rfl
    · rw [History.dropped_append, flights.dropped, booked.2.2.2.2]; rfl
  | false =>
    -- the batch waits for its permit yet
    obtain ⟨h₁, flights₁, course₁⟩ := course_makeReady cluster t
    obtain ⟨h₂, flights₂, course₂⟩ :=
      course_await cluster Channel.hasRoom tooLate (t.makeReady cluster)
    have ready : (t.makeReady cluster).ground = t.ground := by
      unfold makeReady
      split <;> rfl
    have ground := (ground_await cluster Channel.hasRoom tooLate (t.makeReady cluster)).trans ready
    let room := (t.makeReady cluster).await cluster Channel.hasRoom tooLate
    have released : release cluster tooLate t =
        if room.1 then (true, (room.2.onChannel (Channel.launch room.2.now)).spend)
        else (false, room.2.onChannel Channel.forget) := by
      unfold release
      rw [hi]
      rfl
    have flights := flights₁.append flights₂
    cases hr : room.1 with
    | true =>
      rw [released, if_pos hr] at late
      cases late
    | false =>
      rw [released, if_neg (by rw [hr]; exact Bool.false_ne_true)]
      exact ⟨_, room.2, course₁.trans course₂, flights.taken, flights.dropped,
        (congrArg Channel.buffer ground).trans hb, rfl⟩

theorem forgot_dispatch {tooLate : Nat → Bool} {t : Traffic σ τ} (ht : t.channel.AtRest)
    (late : (dispatch cluster tooLate t).1 = false) :
    ∃ h u, Forgot cluster t (dispatch cluster tooLate t).2 h u := by
  obtain ⟨h, taken, dropped, reaped⟩ := course_reap cluster t
  unfold dispatch at late ⊢
  dsimp only at late ⊢
  split at late
  · cases late
  · rename_i hb
    rw [if_neg hb]
    have cut : Move cluster t.reap [] (t.reap.onChannel Channel.cut) :=
      .cut ht.waiting (Bool.eq_false_iff.2 hb)
    obtain ⟨g, u, ran⟩ := forgot_release (t := t.reap.onChannel Channel.cut) rfl rfl ht.inline late
    exact ⟨h ++ g, u, ran.after (reaped.silent cut) taken dropped⟩

/-- A closing that runs out of time does so while it waits, be it for a permit or for the end of
what is under way. -/
theorem forgot_drained (cluster : Cluster σ τ) (tooLate : Nat → Bool) {t : Traffic σ τ}
    (ht : t.channel.AtRest) :
    ∃ h u, Forgot cluster t (drained cluster tooLate t).2 h u := by
  unfold drained
  dsimp only
  cases hs : (dispatch cluster tooLate t).1 with
  | false =>
    rw [if_neg Bool.false_ne_true]
    exact forgot_dispatch ht hs
  | true =>
    rw [if_pos rfl]
    obtain ⟨h, sent⟩ := released_dispatch cluster tooLate ht
    let out := (dispatch cluster tooLate t).2
    obtain ⟨g, flights, course⟩ := course_await cluster Channel.isIdle tooLate out
    have ground := ground_await cluster Channel.isIdle tooLate out
    have waited : Forgot cluster out (out.await cluster Channel.isIdle tooLate).2 g _ :=
      .of_nothing_waiting course flights.taken flights.dropped
        ((congrArg Channel.buffer ground).trans sent.buffer)
        ((congrArg Channel.waiting ground).trans sent.waiting)
    exact ⟨h ++ g, _, waited.after sent.course sent.taken (sent.inTime hs).1⟩

theorem course_forget (cluster : Cluster σ τ) (t : Traffic σ τ) :
    ∃ h : History, h.taken = [] ∧ Course (Move cluster) t h (t.onChannel Channel.forget) := by
  cases hw : t.channel.waiting with
  | none =>
    rw [onChannel, Channel.forget_of_waiting hw]
    exact ⟨[], rfl, .refl t⟩
  | some ops => exact ⟨_, rfl, .single (.dropWaiting hw)⟩

/-- **A closing** is a course of strides, too. It says that all batches were booked unless its time
ran out. -/
theorem strides_close (cluster : Cluster σ τ) (timeout : Nat) {t : Traffic σ τ}
    (ht : t.channel.AtRest) :
    ∃ (h : History) (stage : Stage), Course (Stride cluster) (t, .writing) h
      ((t.close cluster timeout).2, stage) ∧
      h.taken = [] ∧ (t.close cluster timeout).2.channel.Empty ∧
      ((t.close cluster timeout).1 = true ↔ stage ≠ .expired) := by
  obtain ⟨h, course, taken, empty, told⟩ := course_close cluster timeout ht
  have closing : Course (Stride cluster) (t, .writing) [] (t, .closing (t.now + timeout)) :=
    .single (.close t timeout)
  cases inTime : (t.close cluster timeout).1 with
  | true =>
    refine ⟨h, .closing (t.now + timeout), closing.trans ?_, taken, empty, by simp⟩
    exact strides_of_course course (.inr taken) (.inr (told.1 inTime))
  | false =>
    let deadline := t.now + timeout
    let tooLate : Nat → Bool := if t.channel.isInline then (deadline < ·) else (deadline ≤ ·)
    have closed : t.close cluster timeout = finish deadline (drained cluster tooLate t) := rfl
    have late : (drained cluster tooLate t).1 = false := by rwa [closed, finish_fst] at inTime
    obtain ⟨g, u, ran⟩ := forgot_drained cluster tooLate ht
    let expired : Traffic σ τ := { u with now := max u.now deadline }
    obtain ⟨f, untaken, forgotten⟩ := course_forget cluster expired
    have booked := course_bookLanded cluster (expired.onChannel Channel.forget)
    have dropped := course_dropFlights cluster u.channel.flights
      (t := (expired.onChannel Channel.forget).onChannel Channel.bookLanded) rfl
    have left : (t.close cluster timeout).2 =
        ((expired.onChannel Channel.forget).onChannel Channel.bookLanded).onChannel
          Channel.dropFlights := by
      rw [closed]
      unfold finish
      rw [if_neg (by rw [late]; exact Bool.false_ne_true), ran.left]
      rfl
    rw [left] at empty ⊢
    refine ⟨_, .expired,
      ((closing.trans (strides_of_course ran.course (.inr ran.taken) (.inr ran.dropped))).tail
      (.expire u (Nat.le_max_right _ _))).trans
      (strides_of_course ((forgotten.trans booked).trans dropped) (.inr ?_) (.inl rfl)), ?_, empty,
        by simp⟩
    all_goals
      simp only [History.taken_append, ran.taken, untaken, (History.of_bookings _).1,
        (History.of_drops _).1]
      rfl

/-- **One place for each operation.** Every course of strides from an opened channel leaves each
operation that it took in one place, has no more batches under way than may be, and dropped batches
only if the time of a closing ran out. What the owner of the channel does, and the closing, are such
courses; where no batch may be under way, all that were cut are booked behind each deed. -/
theorem single_location (cluster : Cluster σ τ) (index : String) (limits : BatchLimits)
    (backoff : BackoffPolicy) (tally : RunTally) (now : Nat) (s : σ) (allowance : Nat) :
    let opened : Traffic σ τ :=
      { channel := .ofTally index limits backoff tally, now, cluster := s, allowance }
    (∀ h t stage, Course (Stride cluster) (opened, .writing) h (t, stage) →
      Located limits stage h t.channel) ∧
    ∀ deeds timeout,
      let written := deeds.foldl (operate cluster) opened
      let closed := written.close cluster timeout
      ∃ (h g : History) (stage : Stage), Course (Stride cluster) (opened, .writing) h
        (written, .writing) ∧
        h.taken = Deed.added deeds ∧
        (limits.concurrent = 0 → written.channel.dispatched = h.booked.length ∧
          written.channel.waiting = none ∧
          written.channel.flights = [] ∧ written.channel.landed = []) ∧
        Course (Stride cluster) (written, .writing) g (closed.2, stage) ∧ g.taken = [] ∧
          closed.2.channel.Empty ∧
        (closed.1 = true ↔ stage ≠ .expired) := by
  intro opened
  have tracked : Tracked limits .writing [] opened.channel := .opened index limits backoff tally
  refine ⟨fun h t stage course =>
    (Tracked.strides (a := (opened, .writing)) tracked course).located,
    fun deeds timeout => ?_⟩
  intro written closed
  obtain ⟨h, course, taken, settled⟩ :=
    strides_operateAll cluster deeds (t := opened) ⟨⟨rfl, fun _ => rfl⟩, fun _ => rfl⟩
  obtain ⟨g, stage, course', untaken, empty, told⟩ := strides_close cluster timeout settled.atRest
  refine ⟨h, g, stage, course, taken, fun none => ?_, course', untaken, empty, told⟩
  have after := Tracked.strides (a := (opened, .writing)) tracked course
  have inline : written.channel.isInline = true := by
    show (written.channel.limits.concurrent == 0) = true
    rw [show written.channel.limits = limits from after.limits, none]
    rfl
  have located := after.located
  have waiting : written.channel.waiting = Option.none := settled.atRest.waiting
  have flights : written.channel.flights = [] := settled.atRest.inline inline
  have landed : written.channel.landed = [] := settled.inline inline
  refine ⟨?_, waiting, flights, landed⟩
  have batches : written.channel.dispatched = _ := located.batches
  obtain ⟨spared, kept⟩ := located.spared (by simp)
  rw [batches, waiting, flights, landed, spared, kept]
  simp

/-- A closing whose time runs out while the last batch waits for its permit: one batch is under way,
and no second may be. Each of the three operations is in one place yet. -/
theorem single_location_late :
    let limits : BatchLimits := { actions := 2, concurrent := 1, bytes := none }
    let opened : Traffic MemoryCluster Unit :=
      { channel := .ofTally "books1" limits {} {}, now := 0, cluster := { latency := 40 } }
    let deeds : List Deed :=
      [.add ⟨.index, "a", some "1"⟩, .add ⟨.delete, "b", none⟩, .rest 10,
        .add ⟨.index, "a", some "2"⟩]
    let written := deeds.foldl (operate MemoryCluster.cluster) opened
    let closed := written.close MemoryCluster.cluster 20
    (written.channel.flights.length, written.channel.buffer.size) = (1, 1) ∧ closed.1 = false ∧
      ∃ h : History, Course (Stride MemoryCluster.cluster) (opened, .writing) h
        (closed.2, .expired) ∧
        h.taken = Deed.added deeds ∧ Located limits .expired h closed.2.channel := by
  intro limits opened deeds written closed
  have before : (written.channel.flights.length, written.channel.buffer.size) = (1, 1) := by
    decide +kernel
  have late : closed.1 = false := by decide +kernel
  obtain ⟨located, runs⟩ := single_location MemoryCluster.cluster "books1" limits {} {} 0
    { latency := 40 } turnAllowance
  obtain ⟨h, g, stage, course, taken, -, course', untaken, -, told⟩ := runs deeds 20
  obtain rfl : stage = .expired := Decidable.byContradiction fun running => by
    cases late.symm.trans (told.2 running)
  have whole := course.trans course'
  refine ⟨before, late, h ++ g, whole, ?_, located _ _ _ whole⟩
  rw [History.taken_append, taken, untaken, List.append_nil]

end Traffic

end Reindex
