import Reindex.Proofs.Bulk.Landing
import Reindex.Proofs.Bulk.Schedule
import Reindex.Proofs.Bulk.Settlement

/-!
# Batches one at a time

With no concurrent batches a channel is a cutter of batches with a courier behind it: operations are
gathered until they fill a batch, and each batch is taken to its landing before the next operation
is looked at. So what a channel comes to is a fold over the batches that its operations make.

`BatchLimits.cutAll` carries the batch in progress, as the buffer does. `deliver` is a batch on its
own.

Main statement: `Traffic.loaded_inline`, for a channel that takes operations and is closed in time.
It rests on `Traffic.await_single`, a wait for the one batch that is under way.
-/

namespace Reindex

variable {σ τ : Type}

/-! ## Cutting -/

/-- How large operations count together. -/
def Operation.bytesOf (ops : List Operation) : Nat :=
  ops.foldl (fun bytes op => bytes + op.estimatedBytes) 0

namespace BatchLimits

/-- Operations that make a batch. -/
def isBatch (l : BatchLimits) (ops : List Operation) : Bool :=
  l.reached ops.length (Operation.bytesOf ops)

/-- The batches that operations make behind those in the buffer, and what stays in the buffer. -/
def cutAll (l : BatchLimits) (buffer : List Operation) :
    List Operation → List (List Operation) × List Operation
  | [] => ([], buffer)
  | op :: ops =>
    if l.isBatch (buffer ++ [op]) then
      let rest := cutAll l [] ops
      ((buffer ++ [op]) :: rest.1, rest.2)
    else cutAll l (buffer ++ [op]) ops

/-- One operation after another. -/
theorem cutAll_cons (l : BatchLimits) (buffer : List Operation) (op : Operation)
    (ops : List Operation) :
    l.cutAll buffer (op :: ops) =
      ((l.cutAll buffer [op]).1 ++ (l.cutAll (l.cutAll buffer [op]).2 ops).1,
        (l.cutAll (l.cutAll buffer [op]).2 ops).2) := by
  by_cases full : l.isBatch (buffer ++ [op])
  · simp [cutAll, full]
  · simp [cutAll, full]

/-- The batches of operations when all are let go: what stays in the buffer makes the last one. -/
def batches (l : BatchLimits) (ops : List Operation) : List (List Operation) :=
  let cut := l.cutAll [] ops
  if cut.2 = [] then cut.1 else cut.1 ++ [cut.2]

theorem flatten_cutAll (l : BatchLimits) (buffer ops : List Operation) :
    (l.cutAll buffer ops).1.flatten ++ (l.cutAll buffer ops).2 = buffer ++ ops := by
  induction ops generalizing buffer with
  | nil => simp [cutAll]
  | cons op ops ih =>
    unfold cutAll
    by_cases full : l.isBatch (buffer ++ [op])
    · have rest := ih []
      simp only [if_pos full, List.flatten_cons, List.append_assoc] at rest ⊢
      simp [rest]
    · rw [if_neg full, ih]
      simp

/-- **Nothing is lost between batches.** -/
theorem flatten_batches (l : BatchLimits) (ops : List Operation) :
    (l.batches ops).flatten = ops := by
  have all := l.flatten_cutAll [] ops
  unfold batches
  by_cases last : (l.cutAll [] ops).2 = []
  · simpa [last] using all
  · simpa [last] using all

theorem ne_nil_of_mem_cutAll {l : BatchLimits} {buffer ops batch : List Operation}
    (h : batch ∈ (l.cutAll buffer ops).1) : batch ≠ [] := by
  induction ops generalizing buffer with
  | nil => cases h
  | cons op ops ih =>
    unfold cutAll at h
    by_cases full : l.isBatch (buffer ++ [op])
    · rw [if_pos full] at h
      rcases List.mem_cons.1 h with rfl | h
      · simp
      · exact ih h
    · rw [if_neg full] at h
      exact ih h

theorem ne_nil_of_mem_batches {l : BatchLimits} {ops batch : List Operation}
    (h : batch ∈ l.batches ops) : batch ≠ [] := by
  unfold batches at h
  by_cases last : (l.cutAll [] ops).2 = []
  · rw [if_pos last] at h
    exact ne_nil_of_mem_cutAll h
  · rw [if_neg last] at h
    rcases List.mem_append.1 h with h | h
    · exact ne_nil_of_mem_cutAll h
    · rw [List.mem_singleton.1 h]
      exact last

/-- The batch that is let go first. -/
def firstBatch (l : BatchLimits) (ops : List Operation) : List Operation := (l.batches ops).headD []

theorem firstBatch_append (l : BatchLimits) (ops : List Operation) :
    l.firstBatch ops ++ (l.batches ops).tail.flatten = ops := by
  have all := l.flatten_batches ops
  unfold firstBatch
  cases hb : l.batches ops with
  | nil => rwa [hb] at all
  | cons first rest => rwa [hb] at all

end BatchLimits

/-! ## One batch -/

/-- A batch on its own: it is followed to its landing, which is booked. -/
def deliver (cluster : Cluster σ τ) (index : String) (backoff : BackoffPolicy)
    (state : σ × RunTally) (batch : List Operation) : σ × RunTally :=
  let flight : Flight τ := { batch := 0, submission := .ofOperations batch backoff, phase := .sending, due := 0 }
  let told := flight.land cluster index state.1
  (told.2, state.2.settle told.1)

/-- A failure stays in the ledger. -/
theorem clean_of_delivered {cluster : Cluster σ τ} {index : String} {backoff : BackoffPolicy}
    {batches : List (List Operation)} {state : σ × RunTally}
    (h : (batches.foldl (deliver cluster index backoff) state).2.failed = false) : state.2.failed = false := by
  induction batches generalizing state with
  | nil => exact h
  | cons batch batches ih =>
    have first : (deliver cluster index backoff state batch).2.failed = false := ih h
    unfold deliver at first
    dsimp only at first
    rw [RunTally.failed_settle, Bool.or_eq_false_iff] at first
    exact first.1

namespace Traffic

variable {cluster : Cluster σ τ} {tooLate : Nat → Bool} {t : Traffic σ τ} {f : Flight τ}

/-- A turn with one flight that is due. -/
theorem turn_single (cluster : Cluster σ τ) (hf : t.channel.flights = [f]) (hd : f.due ≤ t.now) :
    t.turn cluster =
      match f.run cluster t.channel.index t.now t.cluster with
      | (.landed landing, s) =>
        { t with cluster := s, allowance := turnAllowance
                 channel := { t.channel with flights := [], landed := t.channel.landed ++ [landing] } }
      | (.airborne g, s) =>
        { t with cluster := s, allowance := turnAllowance, channel := { t.channel with flights := [g] } } := by
  have looked : f.due ≤ t.now ∧ 0 < turnFlights := ⟨hd, by decide⟩
  unfold turn
  rw [hf]
  unfold Flight.runSome
  rw [if_pos looked]
  cases hr : f.run cluster t.channel.index t.now t.cluster with
  | mk status s =>
    cases status with
    | landed landing => rfl
    | airborne g =>
      have nothing : t.channel.landed ++ [] = t.channel.landed := List.append_nil _
      simp [Flight.runSome, nothing]

theorem nextDue_single (hf : t.channel.flights = [f]) : t.channel.nextDue? = some f.due := by
  simp [Channel.nextDue?, hf]

theorem busy_single (hf : t.channel.flights = [f]) : t.channel.isIdle = false := by
  simp [Channel.isIdle, hf]

/-- **A wait for the one batch under way,** unless it was given up, follows it to its landing. -/
theorem await_single (hf : t.channel.flights = [f]) (hd : t.now ≤ f.due)
    (inTime : (t.await cluster Channel.isIdle tooLate).1 = true) :
    let told := f.land cluster t.channel.index t.cluster
    (t.await cluster Channel.isIdle tooLate).2.cluster = told.2 ∧
      (t.await cluster Channel.isIdle tooLate).2.channel =
        { t.channel with flights := [], landed := t.channel.landed ++ [told.1] } := by
  fun_induction await cluster Channel.isIdle tooLate t generalizing f with
  | case1 t ready => simp [busy_single hf] at ready
  | case2 t ready none => simp [nextDue_single hf] at none
  | case3 => cases inTime
  | case4 t ready due next now late =>
    rename_i ih
    have same : due = f.due := by simpa [nextDue_single hf] using next.symm
    have time : now = f.due := by omega
    have turned := turn_single cluster (t := { t with now }) hf (by simp [time])
    have way := Flight.land_of_run cluster t.channel.index t.cluster time.symm
    dsimp only at turned
    cases hr : f.run cluster t.channel.index now t.cluster with
    | mk status s =>
      rw [hr] at turned way
      cases status with
      | landed landing =>
        rw [way, turned]
        unfold await
        exact ⟨rfl, rfl⟩
      | airborne g =>
        have later := (Flight.run_airborne (congrArg Prod.fst hr)).2
        rw [way]
        rw [turned] at ih inTime ⊢
        exact ih rfl (by simpa using Nat.le_of_lt later) inTime

/-- A batch that lands as soon as it is let go is not given up, if it is not too late already. -/
theorem await_at_once (hf : t.channel.flights = [f]) (hd : f.due ≤ t.now) {landing : Landing}
    {s : σ} (hr : f.run cluster t.channel.index t.now t.cluster = (.landed landing, s))
    (inTime : tooLate t.now = false) :
    (t.await cluster Channel.isIdle tooLate).1 = true := by
  have time : max t.now f.due = t.now := by omega
  have turned := turn_single cluster hf hd
  rw [hr] at turned
  have landed : (await cluster Channel.isIdle tooLate (t.turn cluster)).1 = true := by
    rw [turned]
    unfold await
    rfl
  unfold await
  rw [if_neg (by simp [busy_single hf])]
  split
  · rfl
  · rename_i due next
    have same : due = f.due := by simpa [nextDue_single hf] using next.symm
    rw [same, time]
    dsimp only
    rw [if_neg (by simp [inTime])]
    exact landed

/-! ## The courier at work -/

end Traffic

/-- A channel without concurrent batches, between two operations: all that it holds is in its
buffer. -/
structure Channel.Resting (index : String) (limits : BatchLimits) (backoff : BackoffPolicy)
    (buffer : List Operation) (c : Channel τ) : Prop where
  index : c.index = index
  limits : c.limits = limits
  backoff : c.backoff = backoff
  gathered : c.buffer.toList = buffer
  bytes : c.bufferedBytes = Operation.bytesOf buffer
  waiting : c.waiting = none
  flights : c.flights = []
  landed : c.landed = []

theorem Channel.resting_of_fresh {index : String} {limits : BatchLimits} {backoff : BackoffPolicy}
    {tally : RunTally} {c : Channel τ} (h : c = .ofTally index limits backoff tally) :
    c.Resting index limits backoff [] := by
  subst h
  exact ⟨rfl, rfl, rfl, rfl, rfl, rfl, rfl, rfl⟩

namespace Traffic

variable {cluster : Cluster σ τ} {index : String} {limits : BatchLimits} {backoff : BackoffPolicy}
  {buffer ops : List Operation} {tooLate : Nat → Bool} {t : Traffic σ τ}

theorem resting_push (hr : t.channel.Resting index limits backoff buffer) (op : Operation) :
    (t.onChannel (·.push op)).channel.Resting index limits backoff (buffer ++ [op]) where
  index := hr.index
  limits := hr.limits
  backoff := hr.backoff
  gathered := by simp [onChannel, Channel.push, hr.gathered]
  bytes := by simp [onChannel, Channel.push, hr.bytes, Operation.bytesOf]
  waiting := hr.waiting
  flights := hr.flights
  landed := hr.landed

theorem isFull_of_resting (hr : t.channel.Resting index limits backoff buffer) :
    t.channel.isFull = limits.isBatch buffer := by
  unfold Channel.isFull BatchLimits.isBatch
  rw [hr.limits, hr.bytes, ← hr.gathered]
  rfl

theorem reap_of_resting (hr : t.channel.Resting index limits backoff buffer) : t.reap = t := by
  unfold reap
  rw [hr.landed]
  simp [book_of_no_landed hr.landed]

/-- The batch of what is buffered, about to be sent. -/
def nextFlight (t : Traffic σ τ) : Flight τ :=
  { batch := t.channel.dispatched + 1,
    submission := .ofOperations t.channel.buffer.toList t.channel.backoff
    phase := .sending, due := t.now }

/-- The channel when its next batch was let go. -/
def launched (t : Traffic σ τ) : Traffic σ τ :=
  (t.onChannel Channel.cut).onChannel (Channel.launch t.now)

theorem flights_launched (hf : t.channel.flights = []) :
    t.launched.channel.flights = [t.nextFlight] := by
  simp [launched, onChannel, Channel.cut, Channel.launch, nextFlight, hf]

/-- Without concurrent batches, letting one go is waiting for it. -/
theorem dispatch_of_resting (inline : limits.concurrent = 0)
    (hr : t.channel.Resting index limits backoff buffer) (filled : buffer ≠ [])
    (cluster : Cluster σ τ) (tooLate : Nat → Bool) :
    t.dispatch cluster tooLate =
      ((t.launched.await cluster Channel.isIdle tooLate).1,
        (t.launched.await cluster Channel.isIdle tooLate).2.onChannel Channel.bookLanded) := by
  have some : t.channel.buffer.isEmpty = false := by
    rw [Bool.eq_false_iff]
    intro empty
    rw [← hr.gathered, Array.isEmpty_iff.1 empty] at filled
    exact filled rfl
  have waits : (t.onChannel Channel.cut).channel.isInline = true := by
    show (t.channel.limits.concurrent == 0) = true
    rw [hr.limits, inline]
    rfl
  unfold dispatch
  rw [reap_of_resting hr]
  dsimp only
  rw [some, if_neg Bool.false_ne_true]
  unfold release
  rw [if_pos waits]
  rfl

/-- **A batch is cut and taken to its landing,** unless the time for that is over. -/
theorem dispatch_inline (timeless : cluster.Timeless) (inline : limits.concurrent = 0)
    (hr : t.channel.Resting index limits backoff buffer) (filled : buffer ≠ [])
    (inTime : (t.dispatch cluster tooLate).1 = true) :
    (t.dispatch cluster tooLate).2.channel.Resting index limits backoff [] ∧
      ((t.dispatch cluster tooLate).2.cluster, (t.dispatch cluster tooLate).2.channel.tally) =
        deliver cluster index backoff (t.cluster, t.channel.tally) buffer := by
  rw [dispatch_of_resting inline hr filled] at inTime ⊢
  have alone := flights_launched hr.flights
  obtain ⟨atCluster, atChannel⟩ := await_single alone (Nat.le_refl t.now) inTime
  let courier : Flight τ :=
    { batch := 0, submission := .ofOperations buffer backoff, phase := .sending, due := 0 }
  have same : t.nextFlight.land cluster t.launched.channel.index t.launched.cluster =
      courier.land cluster index t.cluster := by
    show t.nextFlight.land cluster t.channel.index t.cluster = _
    rw [hr.index]
    refine Flight.land_timeless timeless index t.cluster rfl rfl ?_
    show Submission.ofOperations t.channel.buffer.toList t.channel.backoff = _
    rw [hr.gathered, hr.backoff]
  rw [same] at atCluster atChannel
  have unbooked : t.launched.channel.landed = [] := hr.landed
  dsimp only [onChannel]
  rw [atCluster, atChannel, unbooked]
  exact ⟨⟨hr.index, hr.limits, hr.backoff, rfl, rfl, rfl, rfl, rfl⟩, rfl⟩

/-- An operation is gathered, or fills a batch. -/
theorem add_inline (timeless : cluster.Timeless) (inline : limits.concurrent = 0)
    (hr : t.channel.Resting index limits backoff buffer) (op : Operation) :
    let cut := limits.cutAll buffer [op]
    (t.add cluster op).channel.Resting index limits backoff cut.2 ∧
      ((t.add cluster op).cluster, (t.add cluster op).channel.tally) =
        cut.1.foldl (deliver cluster index backoff) (t.cluster, t.channel.tally) := by
  have pushed := resting_push hr op
  unfold add BatchLimits.cutAll BatchLimits.cutAll
  dsimp only
  rw [isFull_of_resting pushed]
  by_cases full : limits.isBatch (buffer ++ [op]) = true
  · rw [if_pos full, if_pos full]
    exact dispatch_inline timeless inline pushed (by simp) (dispatch_patient cluster _)
  · rw [if_neg full, if_neg full]
    exact ⟨pushed, rfl⟩

/-- A channel takes operations one after another. -/
def addAll (cluster : Cluster σ τ) (ops : List Operation) (t : Traffic σ τ) : Traffic σ τ :=
  ops.foldl (fun t op => t.add cluster op) t

theorem addAll_inline (timeless : cluster.Timeless) (inline : limits.concurrent = 0)
    (hr : t.channel.Resting index limits backoff buffer) (ops : List Operation) :
    let u := t.addAll cluster ops
    let cut := limits.cutAll buffer ops
    u.channel.Resting index limits backoff cut.2 ∧
      (u.cluster, u.channel.tally) = cut.1.foldl (deliver cluster index backoff)
        (t.cluster, t.channel.tally) := by
  induction ops generalizing buffer t with
  | nil => exact ⟨hr, rfl⟩
  | cons op ops ih =>
    obtain ⟨rest, delivered⟩ := add_inline timeless inline hr op
    obtain ⟨rest', delivered'⟩ := ih rest
    rw [BatchLimits.cutAll_cons]
    refine ⟨rest', ?_⟩
    rw [List.foldl_append, ← delivered]
    exact delivered'

theorem await_of_no_flights (cluster : Cluster σ τ) (tooLate : Nat → Bool)
    (hf : t.channel.flights = []) :
    t.await cluster Channel.isIdle tooLate = (true, t) := by
  unfold await
  rw [if_pos (by simp [Channel.isIdle, hf])]

theorem dispatch_of_empty (hr : t.channel.Resting index limits backoff []) (cluster : Cluster σ τ)
    (tooLate : Nat → Bool) :
    t.dispatch cluster tooLate = (true, t) := by
  have nothing : t.channel.buffer.isEmpty = true :=
    Array.isEmpty_iff.2 (Array.toList_eq_nil_iff.1 hr.gathered)
  unfold dispatch
  rw [reap_of_resting hr]
  dsimp only
  rw [nothing, if_pos rfl]

/-- Behind its last batch a closing has nothing to wait for. -/
theorem close_of_dispatch (inline : limits.concurrent = 0)
    (hr : t.channel.Resting index limits backoff buffer) {timeout : Nat} {ended : Bool}
    {u : Traffic σ τ} (hd : t.dispatch cluster (t.now + timeout < ·) = (ended, u))
    (idle : ended = true → u.channel.flights = []) :
    t.close cluster timeout = finish (t.now + timeout) (ended, u) := by
  have waits : t.channel.isInline = true := by
    unfold Channel.isInline
    rw [hr.limits, inline]
    rfl
  unfold close
  dsimp only
  rw [if_pos waits, hd]
  cases ended with
  | false => rfl
  | true =>
    rw [if_pos rfl, await_of_no_flights cluster _ (idle rfl)]
    rfl

/-- Closing takes what is left in the buffer to its landing. -/
theorem close_inline (timeless : cluster.Timeless) (inline : limits.concurrent = 0)
    (hr : t.channel.Resting index limits backoff buffer) {timeout : Nat}
    (drained : (t.close cluster timeout).1 = true) :
    ((t.close cluster timeout).2.cluster, (t.close cluster timeout).2.channel.tally) =
      (if buffer = [] then [] else [buffer]).foldl (deliver cluster index backoff)
        (t.cluster, t.channel.tally) := by
  by_cases empty : buffer = []
  · subst empty
    rw [close_of_dispatch inline hr (dispatch_of_empty hr cluster _) fun _ => hr.flights]
    simp [finish, onChannel, Channel.bookLanded, hr.landed]
  · cases hd : t.dispatch cluster (t.now + timeout < ·) with
    | mk ended u =>
      have sent (h : (t.dispatch cluster (t.now + timeout < ·)).1 = true) :=
        dispatch_inline timeless inline hr empty h
      rw [hd] at sent
      have closing := close_of_dispatch inline hr hd fun h => (sent h).1.flights
      rw [closing, finish_fst] at drained
      obtain ⟨rest, delivered⟩ := sent drained
      have booked : u.channel.landed = [] := rest.landed
      rw [closing, show ended = true from drained, if_neg empty]
      simp [finish, onChannel, Channel.bookLanded, booked, ← delivered]

/-- A closing whose last batch lands as soon as it is let go is in time. -/
theorem close_at_once (timeless : cluster.Timeless) (inline : limits.concurrent = 0)
    (hr : t.channel.Resting index limits backoff buffer) (timeout : Nat)
    (lands : ∀ f : Flight τ, f.submission = .ofOperations buffer backoff → f.phase = .sending →
      f.due = t.now →
      ∃ landing s, f.run cluster index t.now t.cluster = (.landed landing, s)) :
    (t.close cluster timeout).1 = true := by
  by_cases empty : buffer = []
  · subst empty
    rw [close_of_dispatch inline hr (dispatch_of_empty hr cluster _) fun _ => hr.flights,
      finish_fst]
  · have batch : t.nextFlight.submission = .ofOperations buffer backoff := by
      show Submission.ofOperations t.channel.buffer.toList t.channel.backoff = _
      rw [hr.gathered, hr.backoff]
    obtain ⟨landing, s, run⟩ := lands t.nextFlight batch rfl rfl
    have inTime : (t.dispatch cluster (t.now + timeout < ·)).1 = true := by
      rw [dispatch_of_resting inline hr empty]
      have run' : t.nextFlight.run cluster t.launched.channel.index t.now t.cluster =
        (.landed landing, s) := by
        rw [show t.launched.channel.index = index from hr.index]
        exact run
      have early : decide (t.now + timeout < t.now) = false := by simp
      exact await_at_once (flights_launched hr.flights) (Nat.le_refl t.now) run' early
    have rest := (dispatch_inline timeless inline hr empty inTime).1
    rw [close_of_dispatch inline hr (u := (t.dispatch cluster (t.now + timeout < ·)).2)
      (Prod.ext inTime rfl) fun _ => rest.flights, finish_fst]

/-- **A channel that takes operations one batch at a time,** from its opening to its closing. -/
theorem loaded_inline (timeless : cluster.Timeless) (inline : limits.concurrent = 0)
    (hr : t.channel.Resting index limits backoff []) {ops : List Operation} {timeout : Nat}
    (drained : ((t.addAll cluster ops).close cluster timeout).1 = true) :
    let u := ((t.addAll cluster ops).close cluster timeout).2
    (u.cluster, u.channel.tally) =
      (limits.batches ops).foldl (deliver cluster index backoff) (t.cluster, t.channel.tally) := by
  obtain ⟨rest, delivered⟩ := addAll_inline timeless inline hr ops
  have closed := close_inline timeless inline rest drained
  rw [delivered, ← List.foldl_append] at closed
  refine closed.trans (congrArg (List.foldl _ _) ?_)
  unfold BatchLimits.batches
  dsimp only
  split <;> simp_all

end Traffic

end Reindex
