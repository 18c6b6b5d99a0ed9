import Reindex.Proofs.Bulk.Course

/-!
# The schedule of a channel

Which of its moves a channel makes, and when, is decided by its turns, its waits and its writer.
Every function of a channel follows a course. What is at rest, between two operations of the writer,
has no batch waiting, and nothing under way where each batch is waited for.

Main statements: `Traffic.course_add` and `Traffic.course_close` say what the course of an operation
and of a closing leaves in the history; a closing that says that all batches were booked dropped
none, and one that says otherwise dropped one at least.
-/

namespace Reindex

variable {σ τ : Type}

/-- A history that tells of flights only: nothing was taken, booked or dropped. -/
structure History.OfFlights (h : History) : Prop where
  taken : h.taken = []
  booked : h.booked = []
  dropped : h.dropped = []

namespace History.OfFlights

theorem nil : OfFlights [] := ⟨rfl, rfl, rfl⟩

theorem append {h g : History} (hh : h.OfFlights) (hg : g.OfFlights) : OfFlights (h ++ g) where
  taken := by rw [taken_append, hh.taken, hg.taken]; rfl
  booked := by rw [booked_append, hh.booked, hg.booked]; rfl
  dropped := by rw [dropped_append, hh.dropped, hg.dropped]; rfl

end History.OfFlights

/-- A channel between two operations of its writer: no batch waits, and nothing is under way where
each batch is waited for. -/
structure Channel.AtRest (c : Channel τ) : Prop where
  waiting : c.waiting = none
  inline : c.isInline = true → c.flights = []

namespace Traffic

variable {cluster : Cluster σ τ}

@[simp] theorem flown_channel_index (t : Traffic σ τ) (s : σ) (fs : List (Flight τ))
    (ls : List Landing) :
    (t.flown s fs ls).channel.index = t.channel.index := rfl
@[simp] theorem flown_cluster (t : Traffic σ τ) (s : σ) (fs : List (Flight τ)) (ls : List Landing) :
    (t.flown s fs ls).cluster = s := rfl

theorem flown_flown (t : Traffic σ τ) (s s' : σ) (fs fs' : List (Flight τ))
    (ls ls' : List Landing) :
    (t.flown s fs ls).flown s' fs' ls' = t.flown s' fs' (ls ++ ls') := by
  simp [flown, List.append_assoc]

/-! ## Flights -/

theorem move_step {t : Traffic σ τ} {f : Flight τ} {rest : List (Flight τ)}
    (hf : t.channel.flights = f :: rest) (now : Nat) {status : FlightStatus τ} {s : σ}
    (hs : f.step cluster t.channel.index now t.cluster = (status, s)) :
    ∃ h : History, h.OfFlights ∧
      match status with
      | .airborne g => Move cluster t h (t.flown s (g :: rest) [])
      | .landed landing => Move cluster t h (t.flown s rest [landing]) := by
  unfold Flight.step at hs
  cases hp : f.phase with
  | sending =>
    simp only [hp, Prod.mk.injEq] at hs
    obtain ⟨rfl, rfl⟩ := hs
    exact ⟨[], .nil, .send now hf hp rfl⟩
  | awaiting ticket =>
    simp only [hp, Prod.mk.injEq] at hs
    obtain ⟨hear, rfl⟩ := hs
    cases status with
    | airborne g => exact ⟨_, ⟨rfl, rfl, rfl⟩, .resend now hf hp rfl hear⟩
    | landed landing => exact ⟨_, ⟨rfl, rfl, rfl⟩, .land now hf hp rfl hear⟩

/-- A flight is run: it goes on in its place, or it lands. -/
theorem course_run (cluster : Cluster σ τ) {index : String} (now : Nat) {f : Flight τ} {s : σ}
    {rest : List (Flight τ)} {t : Traffic σ τ} (hi : t.channel.index = index)
    (hf : t.channel.flights = f :: rest) (hs : t.cluster = s) :
    ∃ h : History, h.OfFlights ∧
      match f.run cluster index now s with
      | (.airborne g, s') => Course (Move cluster) t h (t.flown s' (g :: rest) [])
      | (.landed landing, s') => Course (Move cluster) t h (t.flown s' rest [landing]) := by
  fun_induction Flight.run cluster index now f s generalizing t with
  | case1 f s landing s' step =>
    rw [← hi, ← hs] at step
    obtain ⟨h, hh, hm⟩ := move_step hf now step
    exact ⟨h, hh, .single hm⟩
  | case2 f s g s' step hdue =>
    rw [← hi, ← hs] at step
    obtain ⟨h, hh, hm⟩ := move_step hf now step
    exact ⟨h, hh, .single hm⟩
  | case3 f s g s' step hdue ih =>
    rw [← hi, ← hs] at step
    obtain ⟨h, hh, hm⟩ := move_step hf now step
    obtain ⟨h', hh', hc⟩ := ih (t := t.flown s' (g :: rest) []) hi rfl rfl
    refine ⟨h ++ h', hh.append hh', ?_⟩
    split at hc <;> simp only [flown_flown, List.nil_append] at hc <;>
      exact (Course.single hm).trans hc

/-- Flights may end up in another order. -/
theorem course_reordered {t u : Traffic σ τ} {s : σ} {fs gs : List (Flight τ)} {ls : List Landing}
    {h : History} (hc : Course (Move cluster) t h (u.flown s fs ls)) (hp : gs.Perm fs) :
    Course (Move cluster) t h (u.flown s gs ls) := by
  have hm : Move cluster (u.flown s fs ls) [] ((u.flown s fs ls).flown s gs []) := .reorder hp
  rw [flown_flown, List.append_nil] at hm
  exact hc.silent hm

theorem course_reorder (t : Traffic σ τ) {fs : List (Flight τ)} (hp : fs.Perm t.channel.flights) :
    Course (Move cluster) t [] (t.flown t.cluster fs []) :=
  .single (.reorder hp)

/-- Some of the flights are run one after another; `kept` are those that are not looked at. -/
theorem course_runSome (cluster : Cluster σ τ) (count : Nat) (fs kept : List (Flight τ))
    {t : Traffic σ τ} (ht : t.channel.flights.Perm (kept ++ fs)) :
    let moved := Flight.runSome cluster t.channel.index t.now count fs t.cluster
    ∃ h : History, h.OfFlights ∧
      Course (Move cluster) t h
        (t.flown moved.2 (kept ++ (moved.1.idle ++ moved.1.again)) moved.1.landed) := by
  induction fs generalizing count kept t with
  | nil =>
    refine ⟨[], .nil, course_reorder t ?_⟩
    simpa [Flight.runSome] using ht.symm
  | cons f rest ih =>
    have front : (f :: (kept ++ rest)).Perm t.channel.flights := List.perm_middle.symm.trans ht.symm
    simp only [Flight.runSome]
    split
    · obtain ⟨h, hh, hc⟩ :=
        course_run cluster t.now (t := t.flown t.cluster (f :: (kept ++ rest)) []) rfl rfl rfl
      split <;> rename_i hr <;>
        simp only [flown_channel_index, flown_cluster, hr, flown_flown, List.nil_append] at hc
      · rename_i landing s
        obtain ⟨h', hh', hc'⟩ := ih (count - 1) kept (t := t.flown s (kept ++ rest) [landing])
          (.refl _)
        refine ⟨h ++ h', hh.append hh', ?_⟩
        rw [flown_flown] at hc'
        exact ((course_reorder t front).trans hc).trans hc'
      · rename_i g s
        obtain ⟨h', hh', hc'⟩ :=
          ih (count - 1) (g :: kept) (t := t.flown s (g :: (kept ++ rest)) []) (.refl _)
        refine ⟨h ++ h', hh.append hh', ?_⟩
        rw [flown_flown] at hc'
        -- the flight that goes on comes behind those that were not due
        refine course_reordered (((course_reorder t front).trans hc).trans hc') ?_
        rw [← List.append_assoc, List.cons_append, ← List.append_assoc]
        exact List.perm_middle
    · obtain ⟨h, hh, hc⟩ := ih count (kept ++ [f]) (t := t) (by simpa using ht)
      exact ⟨h, hh, by simpa using hc⟩

theorem course_turn (cluster : Cluster σ τ) (t : Traffic σ τ) :
    ∃ h : History, h.OfFlights ∧ Course (Move cluster) t h (t.turn cluster) := by
  obtain ⟨h, hh, hc⟩ := course_runSome cluster turnFlights t.channel.flights [] (t := t) (.refl _)
  exact ⟨h, hh, by simpa [turn, flown] using hc.tail (.wait _ t.now turnAllowance)⟩

/-! ## Turns and waits -/

/-- What turns and waits leave alone. -/
def ground (t : Traffic σ τ) : Channel τ := { t.channel with flights := [], landed := [] }

theorem ground_turn (t : Traffic σ τ) : (t.turn cluster).ground = t.ground := rfl

theorem turn_of_no_flights {t : Traffic σ τ} (hf : t.channel.flights = []) :
    (t.turn cluster).channel.flights = [] := by
  simp [turn, hf, Flight.runSome]

theorem ground_await (cluster : Cluster σ τ) (ready : Channel τ → Bool) (tooLate : Nat → Bool)
    (t : Traffic σ τ) :
    (t.await cluster ready tooLate).2.ground = t.ground := by
  fun_induction await cluster ready tooLate t with
  | case1 t hr => rfl
  | case2 t hr hn => rfl
  | case3 t hr due hn now hl => rfl
  | case4 t hr due hn now hl ih => exact ih.trans (ground_turn _)

theorem course_await (cluster : Cluster σ τ) (ready : Channel τ → Bool) (tooLate : Nat → Bool)
    (t : Traffic σ τ) :
    ∃ h : History, h.OfFlights ∧ Course (Move cluster) t h (t.await cluster ready tooLate).2 := by
  fun_induction await cluster ready tooLate t with
  | case1 t hr => exact ⟨[], .nil, .refl t⟩
  | case2 t hr hn => exact ⟨[], .nil, .refl t⟩
  | case3 t hr due hn now hl => exact ⟨[], .nil, .refl t⟩
  | case4 t hr due hn now hl ih =>
    obtain ⟨h, hh, hc⟩ := course_turn cluster { t with now }
    obtain ⟨h', hh', hc'⟩ := ih
    exact ⟨h ++ h', hh.append hh', .head (.wait t now t.allowance) (hc.trans hc')⟩

theorem nextDue?_eq_none {c : Channel τ} : c.nextDue? = none ↔ c.flights = [] := by
  simp [Channel.nextDue?, List.min?_eq_none_iff]

/-- A wait that was not given up ended because the channel was ready or nothing was under way. -/
theorem ready_of_await {ready : Channel τ → Bool} {tooLate : Nat → Bool} {t : Traffic σ τ}
    (h : (t.await cluster ready tooLate).1 = true) :
    ready (t.await cluster ready tooLate).2.channel = true ∨
      (t.await cluster ready tooLate).2.channel.flights = [] := by
  fun_induction await cluster ready tooLate t with
  | case1 t hr => exact .inl hr
  | case2 t hr hn => exact .inr (nextDue?_eq_none.1 hn)
  | case3 t hr due hn now hl => cases h
  | case4 t hr due hn now hl ih => exact ih h

/-- A wait that was given up left something under way. -/
theorem flights_of_await {ready : Channel τ → Bool} {tooLate : Nat → Bool} {t : Traffic σ τ}
    (h : (t.await cluster ready tooLate).1 = false) :
    (t.await cluster ready tooLate).2.channel.flights ≠ [] := by
  fun_induction await cluster ready tooLate t with
  | case1 t hr => cases h
  | case2 t hr hn => cases h
  | case3 t hr due hn now hl =>
    intro hf
    rw [nextDue?_eq_none.2 hf] at hn
    cases hn
  | case4 t hr due hn now hl ih => exact ih h

theorem await_patient (cluster : Cluster σ τ) (ready : Channel τ → Bool) (t : Traffic σ τ) :
    (t.await cluster ready patient).1 = true := by
  fun_induction await cluster ready patient t with
  | case1 t hr => rfl
  | case2 t hr hn => rfl
  | case3 t hr due hn now hl => cases hl
  | case4 t hr due hn now hl ih => exact ih

theorem hasRoom_of_no_flights {c : Channel τ} (hf : c.flights = []) : c.hasRoom = true := by
  simp only [Channel.hasRoom, hf, List.length_nil, decide_eq_true_eq]
  omega

theorem hasRoom_of_await {tooLate : Nat → Bool} {t : Traffic σ τ}
    (h : (t.await cluster Channel.hasRoom tooLate).1 = true) :
    (t.await cluster Channel.hasRoom tooLate).2.channel.hasRoom = true :=
  (ready_of_await h).elim id hasRoom_of_no_flights

theorem idle_of_await {tooLate : Nat → Bool} {t : Traffic σ τ}
    (h : (t.await cluster Channel.isIdle tooLate).1 = true) :
    (t.await cluster Channel.isIdle tooLate).2.channel.flights = [] :=
  (ready_of_await h).elim List.isEmpty_iff.1 id

/-! ## Bookings -/

theorem book_of_no_landed {c : Channel τ} (hl : c.landed = []) (count : Nat) :
    c.book count = c := by
  obtain ⟨⟩ := c
  subst hl
  simp [Channel.book]

theorem course_book (cluster : Cluster σ τ) (count : Nat) (t : Traffic σ τ) :
    Course (Move cluster) t ((t.channel.landed.take count).map .booked)
      (t.onChannel (Channel.book count)) := by
  induction count generalizing t with
  | zero => exact .refl t
  | succ count ih =>
    cases hl : t.channel.landed with
    | nil =>
      rw [List.take_nil, onChannel, book_of_no_landed hl]
      exact .refl t
    | cons landing rest =>
      have first : Move cluster t _ _ := .book hl
      have others :=
        ih (t.onChannel fun c => { c with tally := c.tally.settle landing, landed := rest })
      simpa [onChannel, Channel.book, hl] using (Course.single first).trans others

theorem book_all (c : Channel τ) : c.book c.landed.length = c.bookLanded := by
  simp [Channel.book, Channel.bookLanded]

theorem course_bookLanded (cluster : Cluster σ τ) (t : Traffic σ τ) :
    Course (Move cluster) t (t.channel.landed.map .booked) (t.onChannel Channel.bookLanded) := by
  have hc := course_book cluster t.channel.landed.length t
  rwa [List.take_length, show t.onChannel (Channel.book t.channel.landed.length) =
    t.onChannel Channel.bookLanded from
    congrArg (fun c => { t with channel := c }) (book_all t.channel)] at hc

theorem course_reap (cluster : Cluster σ τ) (t : Traffic σ τ) :
    ∃ h : History, h.taken = [] ∧ h.dropped = [] ∧ Course (Move cluster) t h t.reap := by
  refine ⟨_, ?_, ?_, (course_book cluster (min t.allowance t.channel.landed.length) t).tail
    (.wait _ t.now _)⟩
  · rw [History.taken_append, (History.of_bookings _).1]; rfl
  · rw [History.dropped_append, (History.of_bookings _).2.2.2.2]; rfl

/-! ## The writer's operations -/

theorem atRest_turn (cluster : Cluster σ τ) {t : Traffic σ τ} (ht : t.channel.AtRest) :
    (t.turn cluster).channel.AtRest where
  waiting := ht.waiting
  inline hi := turn_of_no_flights (ht.inline hi)

/-- A turn of the flights before the writer does one more thing. -/
theorem course_makeReady (cluster : Cluster σ τ) (t : Traffic σ τ) :
    ∃ h : History, h.OfFlights ∧ Course (Move cluster) t h (t.makeReady cluster) := by
  unfold makeReady
  split
  · exact course_turn cluster t
  · exact ⟨[], .nil, .refl t⟩

theorem atRest_makeReady (cluster : Cluster σ τ) {t : Traffic σ τ} (ht : t.channel.AtRest) :
    (t.makeReady cluster).channel.AtRest := by
  unfold makeReady
  split
  · exact atRest_turn cluster ht
  · exact ht

/-- What letting a batch go leaves behind. It says whether it was in time. -/
structure Released (cluster : Cluster σ τ) (t : Traffic σ τ) (r : Bool × Traffic σ τ)
    (h : History) : Prop where
  course : Course (Move cluster) t h r.2
  taken : h.taken = []
  waiting : r.2.channel.waiting = none
  buffer : r.2.channel.buffer = #[]
  limits : r.2.channel.limits = t.channel.limits
  inTime : r.1 = true → h.dropped = [] ∧ (r.2.channel.isInline = true → r.2.channel.flights = [])
  tooLate : r.1 = false → h.dropped ≠ [] ∨ r.2.channel.flights ≠ []

theorem Released.after {t u : Traffic σ τ} {r : Bool × Traffic σ τ} {h g : History}
    (hc : Course (Move cluster) t h u) (ht : h.taken = []) (hd : h.dropped = [])
    (hl : u.channel.limits = t.channel.limits) (hr : Released cluster u r g) :
    Released cluster t r (h ++ g) where
  course := hc.trans hr.course
  taken := by rw [History.taken_append, ht, hr.taken]; rfl
  waiting := hr.waiting
  buffer := hr.buffer
  limits := hr.limits.trans hl
  inTime h1 := by rw [History.dropped_append, hd, List.nil_append]; exact hr.inTime h1
  tooLate h1 := by rw [History.dropped_append, hd, List.nil_append]; exact hr.tooLate h1

theorem launch_of_waiting {c : Channel τ} {ops : List Operation} (hw : c.waiting = some ops)
    (now : Nat) :
    (c.launch now).waiting = none ∧ (c.launch now).buffer = c.buffer ∧
    (c.launch now).limits = c.limits := by
  simp [Channel.launch, hw]

theorem released_inline (cluster : Cluster σ τ) (tooLate : Nat → Bool) {t : Traffic σ τ}
    {ops : List Operation} (hw : t.channel.waiting = some ops) (hb : t.channel.buffer = #[])
    (hi : t.channel.isInline = true) (hf : t.channel.flights = []) :
    ∃ h, Released cluster t (release cluster tooLate t) h := by
  obtain ⟨lw, lb, ll⟩ := launch_of_waiting hw t.now
  let launched := t.onChannel (Channel.launch t.now)
  obtain ⟨h, hh, hc⟩ := course_await cluster Channel.isIdle tooLate launched
  have hg := ground_await cluster Channel.isIdle tooLate launched
  let ended := launched.await cluster Channel.isIdle tooLate
  have hr : release cluster tooLate t = (ended.1, ended.2.onChannel Channel.bookLanded) := by
    simp only [release, hi, if_true]; rfl
  rw [hr]
  have booked := History.of_bookings ended.2.channel.landed
  refine ⟨h ++ ended.2.channel.landed.map .booked, ?_⟩
  exact {
    course := (Course.head (.launch t.now (hasRoom_of_no_flights hf)) hc).trans
      (course_bookLanded cluster _)
    taken := by rw [History.taken_append, hh.taken, booked.1]; rfl
    waiting := (congrArg Channel.waiting hg).trans lw
    buffer := (congrArg Channel.buffer hg).trans (lb.trans hb)
    limits := (congrArg Channel.limits hg).trans ll
    inTime := fun h1 =>
      ⟨by rw [History.dropped_append, hh.dropped, booked.2.2.2.2]; rfl, fun _ => idle_of_await h1⟩
    tooLate := fun h1 => .inr (flights_of_await h1) }

theorem released_spawned (cluster : Cluster σ τ) (tooLate : Nat → Bool) {t : Traffic σ τ}
    {ops : List Operation} (hw : t.channel.waiting = some ops) (hb : t.channel.buffer = #[])
    (hi : t.channel.isInline = false) :
    ∃ h, Released cluster t (release cluster tooLate t) h := by
  obtain ⟨h₁, hh₁, hc₁⟩ := course_makeReady cluster t
  have hg₁ : (t.makeReady cluster).ground = t.ground := by
    unfold makeReady; split <;> rfl
  obtain ⟨h₂, hh₂, hc₂⟩ := course_await cluster Channel.hasRoom tooLate (t.makeReady cluster)
  let room := (t.makeReady cluster).await cluster Channel.hasRoom tooLate
  have hg : room.2.ground = t.ground :=
    (ground_await cluster Channel.hasRoom tooLate (t.makeReady cluster)).trans hg₁
  have rw' : room.2.channel.waiting = some ops := (congrArg Channel.waiting hg).trans hw
  have rb : room.2.channel.buffer = #[] := (congrArg Channel.buffer hg).trans hb
  have rl : room.2.channel.limits = t.channel.limits := (congrArg Channel.limits hg).trans rfl
  have ri : room.2.channel.isInline = false :=
    (congrArg (fun l : BatchLimits => l.concurrent == 0) rl).trans hi
  obtain ⟨lw, lb, ll⟩ := launch_of_waiting rw' room.2.now
  have hh := hh₁.append hh₂
  cases h1 : room.1 with
  | true =>
    have hr : release cluster tooLate t =
      (true, (room.2.onChannel (Channel.launch room.2.now)).spend) := by
      simp only [release, hi, Bool.false_eq_true, if_false]
      exact if_pos h1
    rw [hr]
    refine ⟨h₁ ++ h₂, ?_⟩
    exact {
      course := by
        have launch : Move cluster room.2 [] _ := .launch room.2.now (hasRoom_of_await h1)
        exact ((hc₁.trans hc₂).silent launch).silent (.wait _ room.2.now (room.2.allowance - 1))
      taken := hh.taken
      waiting := lw
      buffer := lb.trans rb
      limits := ll.trans rl
      inTime := fun _ => ⟨hh.dropped, fun h2 => by
        have : (Channel.launch room.2.now room.2.channel).isInline = false :=
          (congrArg (fun l : BatchLimits => l.concurrent == 0) (ll.trans rl)).trans hi
        cases this.symm.trans h2⟩
      tooLate := fun h2 => by cases h2 }
  | false =>
    have hr : release cluster tooLate t = (false, room.2.onChannel fun c =>
      { c with waiting := none }) := by
      simp only [release, hi, Bool.false_eq_true, if_false]
      exact if_neg
        (by rw [show ((t.makeReady cluster).await cluster Channel.hasRoom tooLate).1 = false from h1]; simp)
    rw [hr]
    refine ⟨h₁ ++ h₂ ++ [.dropped (unsent ops)], ?_⟩
    exact {
      course := (hc₁.trans hc₂).tail (.dropWaiting rw')
      taken := by rw [History.taken_append, hh.taken]; rfl
      waiting := rfl
      buffer := rb
      limits := rl
      inTime := fun h2 => by cases h2
      tooLate := fun _ =>
        .inl (by rw [History.dropped_append, hh.dropped]; simp [History.dropped]) }

/-- Cutting what is buffered and letting it go. -/
theorem released_dispatch (cluster : Cluster σ τ) (tooLate : Nat → Bool) {t : Traffic σ τ}
    (ht : t.channel.AtRest) :
    ∃ h, Released cluster t (dispatch cluster tooLate t) h := by
  obtain ⟨h, hh, hd, hc⟩ := course_reap cluster t
  unfold dispatch
  dsimp only
  split
  · rename_i hb
    refine ⟨h, ⟨hc, hh, ht.waiting, Array.isEmpty_iff.1 hb, rfl, fun _ => ⟨hd, ht.inline⟩,
      fun h1 => ?_⟩⟩
    cases h1
  · rename_i hb
    have hcut : Move cluster t.reap [] (t.reap.onChannel Channel.cut) :=
      .cut ht.waiting (Bool.eq_false_iff.2 hb)
    cases hi : t.channel.isInline with
    | true =>
      obtain ⟨g, hg⟩ :=
        released_inline cluster tooLate (t := t.reap.onChannel Channel.cut) rfl rfl hi
          (ht.inline hi)
      exact ⟨h ++ g, hg.after (hc.silent hcut) hh hd rfl⟩
    | false =>
      obtain ⟨g, hg⟩ :=
        released_spawned cluster tooLate (t := t.reap.onChannel Channel.cut) rfl rfl hi
      exact ⟨h ++ g, hg.after (hc.silent hcut) hh hd rfl⟩

theorem release_patient (cluster : Cluster σ τ) (t : Traffic σ τ) :
    (release cluster patient t).1 = true := by
  unfold release
  split
  · exact await_patient cluster Channel.isIdle _
  · simp only [await_patient, if_true]

theorem dispatch_patient (cluster : Cluster σ τ) (t : Traffic σ τ) :
    (dispatch cluster patient t).1 = true := by
  unfold dispatch
  dsimp only
  split
  · rfl
  · exact release_patient cluster _

/-- **An operation is taken.** Nothing is dropped, and the channel is at rest again. -/
theorem course_add (cluster : Cluster σ τ) (op : Operation) {t : Traffic σ τ}
    (ht : t.channel.AtRest) :
    ∃ h : History, Course (Move cluster) t h (t.add cluster op) ∧ h.taken = [op] ∧ h.dropped = [] ∧
      (t.add cluster op).channel.AtRest := by
  have htake : Move cluster t [.taken op] (t.onChannel (·.push op)) := .take t op
  have hrest : (t.onChannel (·.push op)).channel.AtRest := ⟨ht.waiting, ht.inline⟩
  unfold add
  dsimp only
  split
  · obtain ⟨h, hr⟩ := released_dispatch cluster patient hrest
    obtain ⟨hd, hf⟩ := hr.inTime (dispatch_patient cluster _)
    refine ⟨_, (Course.single htake).trans hr.course, ?_, ?_, hr.waiting, hf⟩
    · rw [History.taken_append, hr.taken]; rfl
    · rw [History.dropped_append, hd]; rfl
  · exact ⟨_, .single htake, rfl, rfl, hrest⟩

theorem course_dropFlights (cluster : Cluster σ τ) (fs : List (Flight τ)) {t : Traffic σ τ}
    (hf : t.channel.flights = fs) :
    Course (Move cluster) t ((fs.map (·.submission.slots)).map .dropped)
      (t.onChannel Channel.dropFlights) := by
  induction fs generalizing t with
  | nil =>
    have : t.onChannel Channel.dropFlights = t := by
      simp [onChannel, Channel.dropFlights, ← hf]
    rw [this]
    exact .refl t
  | cons f rest ih =>
    exact (Course.single (.dropFlight hf)).trans
      (ih (t := t.onChannel fun c => { c with flights := rest }) rfl)

/-- The last bookings of a channel that is closed, and the drops if not all was waited for. -/
def finish (deadline : Nat) (r : Bool × Traffic σ τ) : Bool × Traffic σ τ :=
  let booked := r.2.onChannel Channel.bookLanded
  if r.1 then (true, booked)
  else (false, { booked.onChannel Channel.dropFlights with now := max booked.now deadline })

theorem finish_fst (deadline : Nat) (r : Bool × Traffic σ τ) : (finish deadline r).1 = r.1 := by
  unfold finish
  split <;> simp_all

theorem course_finish (cluster : Cluster σ τ) (deadline : Nat) {t : Traffic σ τ}
    {r : Bool × Traffic σ τ} {h : History} (hc : Course (Move cluster) t h r.2) (ht : h.taken = [])
    (hw : r.2.channel.waiting = none) (hb : r.2.channel.buffer = #[])
    (inTime : r.1 = true → h.dropped = [] ∧ r.2.channel.flights = [])
    (tooLate : r.1 = false → h.dropped ≠ [] ∨ r.2.channel.flights ≠ []) :
    ∃ g : History, Course (Move cluster) t g (finish deadline r).2 ∧ g.taken = [] ∧
      (finish deadline r).2.channel.Empty ∧ (r.1 = true ↔ g.dropped = []) := by
  have hbk := History.of_bookings r.2.channel.landed
  have booked := hc.trans (course_bookLanded cluster r.2)
  unfold finish
  cases h1 : r.1 with
  | true =>
    obtain ⟨hd, hf⟩ := inTime h1
    refine ⟨_, booked, ?_, ⟨hb, hw, hf, rfl⟩, ?_⟩
    · rw [History.taken_append, ht, hbk.1]; rfl
    · rw [History.dropped_append, hd, hbk.2.2.2.2]; simp
  | false =>
    have hdr := History.of_drops (r.2.channel.flights.map (·.submission.slots))
    have dropped :=
      course_dropFlights cluster r.2.channel.flights (t := r.2.onChannel Channel.bookLanded) rfl
    refine ⟨_, (booked.trans dropped).silent (.wait _ (max r.2.now deadline) r.2.allowance), ?_,
      ⟨hb, hw, rfl, rfl⟩, ?_⟩
    · rw [History.taken_append, History.taken_append, ht, hbk.1, hdr.1]; rfl
    · rw [History.dropped_append, History.dropped_append, hbk.2.2.2.2, hdr.2.2.2.2]
      rcases tooLate h1 with hd | hf <;> simp_all

/-- **A channel is closed.** Nothing is left in it, and batches were dropped if and only if it says
that not all of them were booked. -/
theorem course_close (cluster : Cluster σ τ) (timeout : Nat) {t : Traffic σ τ}
    (ht : t.channel.AtRest) :
    ∃ h : History, Course (Move cluster) t h (t.close cluster timeout).2 ∧ h.taken = [] ∧
      (t.close cluster timeout).2.channel.Empty ∧
        ((t.close cluster timeout).1 = true ↔ h.dropped = []) := by
  let deadline := t.now + timeout
  let tooLate : Nat → Bool := if t.channel.isInline then (deadline < ·) else (deadline ≤ ·)
  obtain ⟨h, hr⟩ := released_dispatch cluster tooLate ht
  let sent := dispatch cluster tooLate t
  cases h1 : sent.1 with
  | false =>
    have hclose : t.close cluster timeout = finish deadline sent := by
      show finish deadline
        (if sent.1 then await cluster Channel.isIdle tooLate sent.2 else sent) = _
      rw [h1]; rfl
    have hdone := course_finish cluster deadline (r := sent) hr.course hr.taken hr.waiting hr.buffer
      (fun h2 => by cases h1.symm.trans h2) (fun _ => hr.tooLate h1)
    rwa [hclose, finish_fst]
  | true =>
    let ended := await cluster Channel.isIdle tooLate sent.2
    have hclose : t.close cluster timeout = finish deadline ended := by
      show finish deadline
        (if sent.1 then await cluster Channel.isIdle tooLate sent.2 else sent) = _
      rw [h1]; rfl
    obtain ⟨g, hg, hc⟩ := course_await cluster Channel.isIdle tooLate sent.2
    have ground := ground_await cluster Channel.isIdle tooLate sent.2
    have hdrop : (h ++ g).dropped = [] := by
      rw [History.dropped_append, (hr.inTime h1).1, hg.dropped]; rfl
    have hdone := course_finish cluster deadline (r := ended) (hr.course.trans hc)
      (by rw [History.taken_append, hr.taken, hg.taken]; rfl)
      ((congrArg Channel.waiting ground).trans hr.waiting)
        ((congrArg Channel.buffer ground).trans hr.buffer)
      (fun h2 => ⟨hdrop, idle_of_await h2⟩) (fun h2 => .inr (flights_of_await h2))
    rwa [hclose, finish_fst]

end Traffic

end Reindex
