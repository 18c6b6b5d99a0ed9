import Reindex.Proofs.Bulk.Inline
import Reindex.Proofs.Bulk.Places

/-!
# How batches are cut

A batch is let go when its flight is set up, under the number of batches that were cut by then. A
log tells of the operations that a channel takes and of the batches that it lets go, as they stand
in their flights. Whatever the flights do meanwhile, what was let go, what waits and what is
buffered is what was taken, in order.

The cutter is greedy: it lets a batch go as soon as what is buffered fills one, and only then; what
is left goes when the channel is closed.

Main statements: `Traffic.Logged.pass` for one move and `Traffic.greedily_cut` for a channel from
its opening to its closing.
-/

namespace Reindex

variable {σ τ : Type}

/-! ## Greedy batches -/

/-- The operations fill a batch: there are enough of them, or they are large enough. -/
def Tuning.Fills (t : Tuning) (ops : List Operation) : Prop :=
  max t.bulkActions 1 ≤ ops.length ∨ ∃ limit, t.bulkSizeBytes = some limit ∧
    limit ≤ Operation.bytesOf ops

/-- Operations cut into batches, none of them empty, in order. Each batch is the shortest run of
operations at the front of those that are left that fills one; the last may fall short of it. -/
structure Tuning.Greedy (t : Tuning) (ops : List Operation) (batches : List (List Operation)) :
    Prop where
  joined : batches.flatten = ops
  nonempty : ∀ batch ∈ batches, batch ≠ []
  full : ∀ sent batch later, batches = sent ++ batch :: later → later ≠ [] → t.Fills batch
  shortest : ∀ sent batch later, batches = sent ++ batch :: later →
    ∀ n, 0 < n → n < batch.length → ¬ t.Fills ((batch :: later).flatten.take n)

theorem Tuning.isBatch_limits (t : Tuning) (ops : List Operation) :
    t.limits.isBatch ops = true ↔ t.Fills ops := by
  unfold BatchLimits.isBatch BatchLimits.reached Tuning.Fills Tuning.limits
  cases t.bulkSizeBytes with
  | none => simp
  | some limit => simp

namespace BatchLimits

/-- What is at the front of the operations fills no batch. -/
def Short (l : BatchLimits) (ops : List Operation) : Prop :=
  ∀ n, 0 < n → n ≤ ops.length → l.isBatch (ops.take n) = false

theorem short_nil (l : BatchLimits) : l.Short [] := fun n pos le => by
  rw [List.length_nil] at le
  omega

theorem Short.push {l : BatchLimits} {buffer : List Operation} {op : Operation}
    (short : l.Short buffer) (lacking : l.isBatch (buffer ++ [op]) = false) :
    l.Short (buffer ++ [op]) := by
  intro n pos le
  by_cases within : n ≤ buffer.length
  · rw [List.take_append_of_le_length within]
    exact short n pos within
  · rw [List.length_append, List.length_singleton] at le
    rw [List.take_of_length_le (by simp; omega)]
    exact lacking

/-- **Cutting is greedy.** A batch is cut where the operations fill one, and not before; what stays
in the buffer fills none. -/
theorem cutAll_greedy (l : BatchLimits) {buffer : List Operation} (short : l.Short buffer)
    (ops : List Operation) :
    (∀ batch ∈ (l.cutAll buffer ops).1, l.isBatch batch = true ∧ l.Short batch.dropLast) ∧
      l.Short (l.cutAll buffer ops).2 := by
  induction ops generalizing buffer with
  | nil => exact ⟨fun batch h => absurd h List.not_mem_nil, short⟩
  | cons op ops ih =>
    unfold cutAll
    by_cases full : l.isBatch (buffer ++ [op]) = true
    · obtain ⟨cut, left⟩ := ih l.short_nil
      rw [if_pos full]
      refine ⟨fun batch h => ?_, left⟩
      rcases List.mem_cons.1 h with rfl | h
      · refine ⟨full, ?_⟩
        rwa [List.dropLast_concat]
      · exact cut batch h
    · rw [if_neg full]
      exact ih (short.push (Bool.eq_false_iff.2 full))

theorem batches_eq (l : BatchLimits) (ops : List Operation) :
    l.batches ops =
      (l.cutAll [] ops).1 ++ if (l.cutAll [] ops).2 = [] then [] else [(l.cutAll [] ops).2] := by
  unfold batches
  dsimp only
  split
  · rw [List.append_nil]
  · rfl

theorem Short.take {l : BatchLimits} {batch : List Operation} (short : l.Short batch.dropLast)
    {n : Nat} (pos : 0 < n) (lt : n < batch.length) : l.isBatch (batch.take n) = false := by
  have front := short n pos (by rw [List.length_dropLast]; omega)
  rwa [List.dropLast_eq_take, List.take_take, Nat.min_eq_left (by omega)] at front

end BatchLimits

theorem mem_dropLast_of_split {α : Type} {xs sent later : List α} {x : α}
    (h : xs = sent ++ x :: later) (more : later ≠ []) : x ∈ xs.dropLast := by
  subst h
  rw [List.dropLast_append_of_ne_nil (List.cons_ne_nil _ _), List.dropLast_cons_of_ne_nil more]
  simp

/-- The batches of a tuning's limits are greedy. -/
theorem Tuning.greedy_batches (t : Tuning) (ops : List Operation) :
    t.Greedy ops (t.limits.batches ops) := by
  obtain ⟨cut, left⟩ := t.limits.cutAll_greedy t.limits.short_nil ops
  have members : ∀ batch ∈ t.limits.batches ops,
      batch ∈ (t.limits.cutAll [] ops).1 ∨ batch = (t.limits.cutAll [] ops).2 := by
    intro batch h
    rw [t.limits.batches_eq] at h
    rcases List.mem_append.1 h with h | h
    · exact .inl h
    · split at h
      · cases h
      · exact .inr (List.mem_singleton.1 h)
  have front : ∀ batch ∈ (t.limits.batches ops).dropLast, batch ∈ (t.limits.cutAll [] ops).1 := by
    intro batch h
    rw [t.limits.batches_eq] at h
    split at h
    · rw [List.append_nil] at h
      exact (List.dropLast_sublist _).subset h
    · rwa [List.dropLast_concat] at h
  refine ⟨t.limits.flatten_batches ops, fun batch h => BatchLimits.ne_nil_of_mem_batches h,
    fun sent batch later split more => ?_, fun sent batch later split n pos lt => ?_⟩
  · exact (t.isBatch_limits batch).1 (cut batch (front batch (mem_dropLast_of_split split more))).1
  · have lacking : t.limits.isBatch (batch.take n) = false := by
      rcases members batch (by rw [split]; simp) with h | rfl
      · exact (cut batch h).2.take pos lt
      · exact left n pos (Nat.le_of_lt lt)
    rw [List.flatten_cons, List.take_append_of_le_length (Nat.le_of_lt lt), ← t.isBatch_limits,
      lacking]
    exact Bool.false_ne_true

/-! ## Logs -/

/-- What can be told of a channel's way. -/
inductive Passing where
  /-- An operation was taken into the buffer. -/
  | taken (op : Operation)
  /-- A batch was let go, under its number. -/
  | letGo (ops : List Operation) (number : Nat)
deriving DecidableEq, Repr

/-- What a channel took and let go, oldest first. -/
abbrev Log := List Passing

namespace Log

/-- The operations that were taken. -/
def taken (log : Log) : List Operation := log.filterMap fun
  | .taken op => some op
  | _ => none

/-- The batches that were let go, each with its number. -/
def letGo (log : Log) : List (List Operation × Nat) := log.filterMap fun
  | .letGo ops number => some (ops, number)
  | _ => none

@[simp] theorem taken_append (log more : Log) : taken (log ++ more) = taken log ++ taken more :=
  List.filterMap_append
@[simp] theorem letGo_append (log more : Log) : letGo (log ++ more) = letGo log ++ letGo more :=
  List.filterMap_append

end Log

namespace Traffic

variable {cluster : Cluster σ τ} {t u v : Traffic σ τ} {log more : Log}

/-- One move of a channel that gives no waiting batch up, with what can be told of it. When the
waiting batch is let go a flight is set up for it, behind the others: what is let go are the
operations of that flight, under its number, which is the number of batches that were cut by
then. -/
inductive Pass (cluster : Cluster σ τ) : Traffic σ τ → Log → Traffic σ τ → Prop
  | take (t : Traffic σ τ) (op : Operation) : Pass cluster t [.taken op] (t.onChannel (·.push op))
  | cut {t : Traffic σ τ} (waiting : t.channel.waiting = none)
      (buffered : t.channel.buffer.isEmpty = false) :
      Pass cluster t [] (t.onChannel Channel.cut)
  | launch {t : Traffic σ τ} {f : Flight τ} (room : t.channel.hasRoom = true)
      (waiting : t.channel.waiting = some f.operations) (numbered : f.batch = t.channel.dispatched)
      (fresh : f.phase = .sending) :
      Pass cluster t [.letGo f.operations f.batch]
        (t.onChannel fun c => { c with waiting := none, flights := c.flights ++ [f] })
  | elsewhere {t u : Traffic σ τ} {h : History} (hm : Move cluster t h u)
      (buffer : u.channel.buffer = t.channel.buffer)
      (waiting : u.channel.waiting = t.channel.waiting)
      (dispatched : u.channel.dispatched = t.channel.dispatched) :
      Pass cluster t [] u

/-- The flight that is set up for a batch has its operations. -/
theorem pass_launch {ops : List Operation} (now : Nat) (room : t.channel.hasRoom = true)
    (waiting : t.channel.waiting = some ops) :
    Pass cluster t [.letGo ops t.channel.dispatched] (t.onChannel (Channel.launch now)) := by
  let f : Flight τ :=
    { batch := t.channel.dispatched, submission := .ofOperations ops t.channel.backoff,
      phase := .sending, due := now }
  have operations : f.operations = ops := Submission.ofOperations_operations ops t.channel.backoff
  have launched : Channel.launch now t.channel =
      { t.channel with waiting := none, flights := t.channel.flights ++ [f] } := by
    unfold Channel.launch
    rw [waiting]
  have pass : Pass cluster t [.letGo f.operations f.batch] _ :=
    .launch room (by rw [waiting, operations]) rfl rfl
  rw [operations] at pass
  unfold onChannel at pass ⊢
  rw [launched]
  exact pass

/-- A move that gives nothing up can be told. -/
theorem pass_of_move {h : History} (hm : Move cluster t h u) (kept : h.dropped = []) :
    ∃ log : Log, Pass cluster t log u ∧ log.taken = h.taken := by
  cases hm with
  | take op => exact ⟨_, .take t op, rfl⟩
  | cut waiting buffered => exact ⟨_, .cut waiting buffered, rfl⟩
  | launch now room =>
    cases waiting : t.channel.waiting with
    | none =>
      have same : t.onChannel (Channel.launch now) = t := by
        unfold onChannel Channel.launch
        rw [waiting]
      rw [same]
      exact ⟨[], .elsewhere (.wait t t.now t.allowance) rfl rfl rfl, rfl⟩
    | some ops => exact ⟨_, pass_launch now room waiting, rfl⟩
  | dropWaiting waiting => cases kept
  | dropFlight hf => cases kept
  | wait now allowance => exact ⟨[], .elsewhere (.wait t now allowance) rfl rfl rfl, rfl⟩
  | reorder perm => exact ⟨[], .elsewhere (.reorder perm) rfl rfl rfl, rfl⟩
  | send now hf hp hb => exact ⟨[], .elsewhere (.send now hf hp hb) rfl rfl rfl, rfl⟩
  | resend now hf hp ha hg => exact ⟨[], .elsewhere (.resend now hf hp ha hg) rfl rfl rfl, rfl⟩
  | land now hf hp ha hl => exact ⟨[], .elsewhere (.land now hf hp ha hl) rfl rfl rfl, rfl⟩
  | book hl => exact ⟨[], .elsewhere (.book hl) rfl rfl rfl, rfl⟩

/-- So can a course of such moves. -/
theorem logged_of_course {h : History} (hc : Course (Move cluster) t h u) (kept : h.dropped = []) :
    ∃ log : Log, Course (Pass cluster) t log u ∧ log.taken = h.taken := by
  induction hc with
  | refl => exact ⟨[], .refl _, rfl⟩
  | @tail u v h g before hm ih =>
    rw [History.dropped_append, List.append_eq_nil_iff] at kept
    obtain ⟨log, course, taken⟩ := ih kept.1
    obtain ⟨step, pass, told⟩ := pass_of_move hm kept.2
    exact ⟨log ++ step, course.tail pass,
      by rw [Log.taken_append, History.taken_append, taken, told]⟩

/-! ## One place behind the other -/

/-- What a channel let go on its way from `t` to `u`, where none was waiting at first: batches with
operations in them, numbered from the first one that was cut on the way. With the batch that waits
and the buffer they are what was buffered and what was taken, in order. -/
structure Logged (t : Traffic σ τ) (log : Log) (u : Traffic σ τ) : Prop where
  order : t.channel.buffer.toList ++ log.taken =
    (log.letGo.map Prod.fst).flatten ++
      (u.channel.waiting.toList.flatten ++ u.channel.buffer.toList)
  numbers : log.letGo = (log.letGo.map Prod.fst).zipIdx (t.channel.dispatched + 1)
  count : u.channel.dispatched =
    t.channel.dispatched + log.letGo.length + u.channel.waiting.toList.length
  nonempty : ∀ ops ∈ log.letGo.map Prod.fst ++ u.channel.waiting.toList, ops ≠ []

theorem Logged.start (waiting : t.channel.waiting = none) : Logged t [] t where
  order := by simp [Log.taken, Log.letGo, waiting]
  numbers := rfl
  count := by simp [Log.letGo, waiting]
  nonempty := by simp [Log.letGo, waiting]

/-- **One move.** -/
theorem Logged.pass (hl : Logged t log u) (hp : Pass cluster u more v) :
    Logged t (log ++ more) v := by
  obtain ⟨order, numbers, count, nonempty⟩ := hl
  cases hp with
  | take op =>
    have told : Log.taken [.taken op] = [op] ∧ Log.letGo [.taken op] = [] := ⟨rfl, rfl⟩
    refine ⟨?_, ?_, ?_, ?_⟩
    · rw [Log.taken_append, Log.letGo_append, told.1, told.2, ← List.append_assoc, order]
      simp [onChannel, Channel.push]
    all_goals
      rw [Log.letGo_append, told.2, List.append_nil]
      assumption
  | cut waiting buffered =>
    have filled : u.channel.buffer ≠ #[] := fun none => by simp [none] at buffered
    rw [waiting] at order count nonempty
    rw [List.append_nil]
    refine ⟨?_, numbers, ?_, ?_⟩
    · simpa [onChannel, Channel.cut] using order
    · simpa [onChannel, Channel.cut] using count
    · simpa [onChannel, Channel.cut, filled, or_imp, forall_and] using nonempty
  | @launch f room waiting numbered fresh =>
    have told : Log.taken [.letGo f.operations f.batch] = [] ∧
        Log.letGo [.letGo f.operations f.batch] = [(f.operations, f.batch)] := ⟨rfl, rfl⟩
    rw [waiting] at order count nonempty
    have number : f.batch = t.channel.dispatched + 1 + (log.letGo.map Prod.fst).length := by
      rw [numbered, count, List.length_map]
      simp only [Option.toList_some, List.length_singleton]
      omega
    refine ⟨?_, ?_, ?_, ?_⟩
    · rw [Log.taken_append, Log.letGo_append, told.1, told.2]
      simpa [onChannel] using order
    · rw [Log.letGo_append, told.2, List.map_append, List.zipIdx_append, ← numbers,
        List.map_singleton, List.zipIdx_singleton, ← number]
    · rw [Log.letGo_append, told.2]
      simpa [onChannel, Nat.add_assoc] using count
    · rw [Log.letGo_append, told.2]
      simpa [onChannel] using nonempty
  | elsewhere hm buffer waiting dispatched =>
    rw [← waiting] at order count nonempty
    rw [← buffer] at order
    rw [← dispatched] at count
    rw [List.append_nil]
    exact ⟨order, numbers, count, nonempty⟩

/-- A whole way. -/
theorem Logged.of_course (waiting : t.channel.waiting = none) (hc : Course (Pass cluster) t log u) :
    Logged t log u :=
  hc.invariant (I := fun log u => Logged t log u) (.start waiting) Logged.pass

/-- A way on which nothing was cut. -/
theorem Logged.none_cut (hl : Logged t log u)
    (dispatched : u.channel.dispatched = t.channel.dispatched) :
    log.letGo = [] := by
  have count := hl.count
  exact List.length_eq_zero_iff.1 (by omega)

/-- A way on which one batch was cut, which left the buffer empty. -/
theorem Logged.one_cut (hl : Logged t log u)
    (dispatched : u.channel.dispatched = t.channel.dispatched + 1)
    (waiting : u.channel.waiting = none) (buffer : u.channel.buffer = #[]) :
    log.letGo = [t.channel.buffer.toList ++ log.taken].zipIdx (t.channel.dispatched + 1) := by
  obtain ⟨order, numbers, count, -⟩ := hl
  rw [waiting] at order count
  rw [buffer] at order
  have single : (log.letGo.map Prod.fst).length = 1 := by
    rw [List.length_map]
    simp only [Option.toList_none, List.length_nil] at count
    omega
  obtain ⟨ops, one⟩ := List.length_eq_one_iff.1 single
  rw [one] at order numbers
  rw [numbers, order]
  simp

end Traffic

/-! ## The cutter -/

namespace Channel

/-- What a channel cuts batches from, and how many it cut. -/
def desk (c : Channel τ) : Array Operation × Nat × Nat × BatchLimits :=
  (c.buffer, c.bufferedBytes, c.dispatched, c.limits)

theorem desk_eq_iff {c : Channel τ} {buffer : Array Operation} {bytes dispatched : Nat}
    {limits : BatchLimits} :
    c.desk = (buffer, bytes, dispatched, limits) ↔
      c.buffer = buffer ∧ c.bufferedBytes = bytes ∧ c.dispatched = dispatched ∧
      c.limits = limits := by
  simp only [desk, Prod.mk.injEq]

theorem desk_launch (now : Nat) (c : Channel τ) : (c.launch now).desk = c.desk := by
  unfold launch
  split <;> rfl

/-- The operations that a channel has in its buffer, with their size, and the limits by which it
cuts them. -/
structure Gathers (limits : BatchLimits) (buffer : List Operation) (dispatched : Nat)
    (c : Channel τ) : Prop where
  desk : c.desk = (buffer.toArray, Operation.bytesOf buffer, dispatched, limits)
  rest : c.AtRest

end Channel

namespace Traffic

variable {cluster : Cluster σ τ} {t u v : Traffic σ τ} {log more : Log} {limits : BatchLimits}
    {buffer : List Operation} {dispatched : Nat}

theorem desk_await (cluster : Cluster σ τ) (ready : Channel τ → Bool) (tooLate : Nat → Bool)
    (t : Traffic σ τ) :
    (t.await cluster ready tooLate).2.channel.desk = t.channel.desk := by
  have kept : (t.await cluster ready tooLate).2.ground.desk = t.ground.desk := by rw [ground_await]
  exact kept

theorem desk_makeReady (cluster : Cluster σ τ) (t : Traffic σ τ) :
    (t.makeReady cluster).channel.desk = t.channel.desk := by
  unfold makeReady
  split <;> rfl

/-- Letting a batch go does nothing to the buffer. -/
theorem desk_release (cluster : Cluster σ τ) (tooLate : Nat → Bool) (t : Traffic σ τ) :
    (release cluster tooLate t).2.channel.desk = t.channel.desk := by
  unfold release
  split
  · exact (desk_await cluster Channel.isIdle tooLate _).trans (Channel.desk_launch t.now t.channel)
  · have room := (desk_await cluster Channel.hasRoom tooLate (t.makeReady cluster)).trans
      (desk_makeReady cluster t)
    dsimp only
    split
    · exact (Channel.desk_launch _ _).trans room
    · exact room

/-- What is buffered makes the next batch, if anything is. -/
theorem desk_dispatch (cluster : Cluster σ τ) (tooLate : Nat → Bool)
    (hg : t.channel.Gathers limits buffer dispatched) :
    (dispatch cluster tooLate t).2.channel.desk =
      (#[], 0, dispatched + (if buffer = [] then 0 else 1), limits) := by
  obtain ⟨gathered, bytes, cut, rules⟩ :=
    Channel.desk_eq_iff.1 (show t.reap.channel.desk = _ from hg.desk)
  unfold dispatch
  dsimp only
  split
  · rename_i empty
    rw [gathered, Array.isEmpty_iff] at empty
    have none : buffer = [] := by simpa using empty
    subst none
    simp [Channel.desk, gathered, bytes, cut, rules, Operation.bytesOf]
  · rename_i filled
    have some : buffer ≠ [] := fun none => filled (by rw [gathered, none]; rfl)
    rw [desk_release, if_neg some]
    simp [onChannel, Channel.cut, Channel.desk, cut, rules]

theorem desk_drained (cluster : Cluster σ τ) (tooLate : Nat → Bool) (t : Traffic σ τ) :
    (drained cluster tooLate t).2.channel.desk = (dispatch cluster tooLate t).2.channel.desk := by
  unfold drained
  dsimp only
  split
  · exact desk_await cluster Channel.isIdle tooLate _
  · rfl

theorem desk_finish (deadline : Nat) (r : Bool × Traffic σ τ) :
    (finish deadline r).2.channel.desk = r.2.channel.desk := by
  unfold finish
  split <;> rfl

theorem isFull_of_gathers (hg : t.channel.Gathers limits buffer dispatched) :
    t.channel.isFull = limits.isBatch buffer := by
  obtain ⟨gathered, bytes, -, rules⟩ := Channel.desk_eq_iff.1 hg.desk
  unfold Channel.isFull BatchLimits.isBatch
  rw [rules, bytes, gathered, List.size_toArray]

theorem gathers_push (hg : t.channel.Gathers limits buffer dispatched) (op : Operation) :
    (t.onChannel (·.push op)).channel.Gathers limits (buffer ++ [op]) dispatched where
  desk := by
    obtain ⟨gathered, bytes, cut, rules⟩ := Channel.desk_eq_iff.1 hg.desk
    simp [Channel.desk, onChannel, Channel.push, gathered, bytes, cut, rules, Operation.bytesOf]
  rest := ⟨hg.rest.waiting, hg.rest.inline⟩

/-- **An operation** is gathered, or fills the batch that is let go next. -/
theorem logged_add (cluster : Cluster σ τ) (op : Operation)
    (hg : t.channel.Gathers limits buffer dispatched) :
    let cut := limits.cutAll buffer [op]
    ∃ log : Log, Course (Pass cluster) t log (t.add cluster op) ∧ log.taken = [op] ∧
      log.letGo = cut.1.zipIdx (dispatched + 1) ∧
      (t.add cluster op).channel.Gathers limits cut.2 (dispatched + cut.1.length) := by
  obtain ⟨h, course, taken, dropped, rest⟩ := course_add cluster op hg.rest
  obtain ⟨log, course, told⟩ := logged_of_course course dropped
  have logged := Logged.of_course hg.rest.waiting course
  have pushed := gathers_push hg op
  obtain ⟨gathered, -, cut, -⟩ := Channel.desk_eq_iff.1 hg.desk
  refine ⟨log, course, told.trans taken, ?_⟩
  unfold BatchLimits.cutAll BatchLimits.cutAll
  by_cases full : limits.isBatch (buffer ++ [op]) = true
  · have desk : (t.add cluster op).channel.desk = (#[], 0, dispatched + 1, limits) := by
      unfold add
      dsimp only
      rw [isFull_of_gathers pushed, if_pos full, desk_dispatch cluster patient pushed,
        if_neg (by simp)]
    obtain ⟨emptied, -, counted, -⟩ := Channel.desk_eq_iff.1 desk
    have gone := logged.one_cut (by rw [counted, cut]) rest.waiting emptied
    rw [gathered, cut, told, taken] at gone
    simp only [if_pos full]
    exact ⟨by simpa using gone, ⟨desk, rest⟩⟩
  · have same : t.add cluster op = t.onChannel (·.push op) := by
      unfold add
      dsimp only
      rw [isFull_of_gathers pushed, if_neg full]
    simp only [if_neg full]
    refine ⟨logged.none_cut (by rw [same]; rfl), ?_⟩
    rw [same]
    exact pushed

/-- **What the owner of a channel does** before he closes it. -/
theorem logged_operateAll (cluster : Cluster σ τ) (deeds : List Deed)
    (hg : t.channel.Gathers limits buffer dispatched) :
    let cut := limits.cutAll buffer (Deed.added deeds)
    ∃ log : Log, Course (Pass cluster) t log (deeds.foldl (operate cluster) t) ∧
      log.taken = Deed.added deeds ∧
      log.letGo = cut.1.zipIdx (dispatched + 1) ∧
      (deeds.foldl (operate cluster) t).channel.Gathers limits cut.2
        (dispatched + cut.1.length) := by
  induction deeds generalizing t buffer dispatched with
  | nil => exact ⟨[], .refl _, rfl, rfl, hg⟩
  | cons deed deeds ih =>
    cases deed with
    | add op =>
      obtain ⟨log, course, taken, letGo, gathers⟩ := logged_add cluster op hg
      obtain ⟨more, course', taken', letGo', gathers'⟩ := ih gathers
      have added : Deed.added (.add op :: deeds) = op :: Deed.added deeds := rfl
      rw [added, BatchLimits.cutAll_cons]
      refine ⟨log ++ more, course.trans course', ?_, ?_, ?_⟩
      · rw [Log.taken_append, taken, taken']
        rfl
      · rw [Log.letGo_append, letGo, letGo', List.zipIdx_append, Nat.add_right_comm]
      · rw [List.length_append, ← Nat.add_assoc]
        exact gathers'
    | rest till =>
      let later : Traffic σ τ := { t with now := max t.now till }
      obtain ⟨h, flights, course⟩ := course_turn cluster later
      obtain ⟨log, course, told⟩ :=
        logged_of_course (.head (.wait t later.now t.allowance) course) flights.dropped
      have none := (Logged.of_course hg.rest.waiting course).none_cut rfl
      obtain ⟨more, course', taken', letGo', gathers'⟩ :=
        ih (t := later.turn cluster)
          ⟨hg.desk, atRest_turn cluster (t := later) ⟨hg.rest.waiting, hg.rest.inline⟩⟩
      refine ⟨log ++ more, course.trans course', ?_, ?_, gathers'⟩
      · rw [Log.taken_append, told, flights.taken, taken']
        rfl
      · rw [Log.letGo_append, none, letGo']
        rfl

/-- **A closing in time** lets go what is left. -/
theorem logged_close (cluster : Cluster σ τ) {timeout : Nat}
    (hg : t.channel.Gathers limits buffer dispatched)
    (inTime : (t.close cluster timeout).1 = true) :
    ∃ log : Log, Course (Pass cluster) t log (t.close cluster timeout).2 ∧ log.taken = [] ∧
      log.letGo = (if buffer = [] then [] else [buffer]).zipIdx (dispatched + 1) := by
  obtain ⟨h, course, taken, empty, told⟩ := course_close cluster timeout hg.rest
  obtain ⟨log, course, told'⟩ := logged_of_course course (told.1 inTime)
  have logged := Logged.of_course hg.rest.waiting course
  let tooLate : Nat → Bool :=
    if t.channel.isInline then (t.now + timeout < ·) else (t.now + timeout ≤ ·)
  have closed : (t.close cluster timeout).2.channel.desk = _ :=
    (desk_finish (t.now + timeout) (drained cluster tooLate t)).trans
      (desk_drained cluster tooLate t)
  rw [desk_dispatch cluster tooLate hg] at closed
  obtain ⟨-, -, counted, -⟩ := Channel.desk_eq_iff.1 closed
  obtain ⟨gathered, -, cut, -⟩ := Channel.desk_eq_iff.1 hg.desk
  refine ⟨log, course, told'.trans taken, ?_⟩
  by_cases none : buffer = []
  · rw [if_pos none]
    exact logged.none_cut (by rw [counted, cut, if_pos none, Nat.add_zero])
  · rw [if_neg none]
    have gone := logged.one_cut (by rw [counted, cut, if_neg none]) empty.waiting empty.buffer
    rwa [gathered, cut, told', taken, List.append_nil] at gone

theorem gathers_opened (index : String) (limits : BatchLimits) (backoff : BackoffPolicy)
    (tally : RunTally) :
    (Channel.ofTally index limits backoff tally : Channel τ).Gathers limits [] 0 :=
  ⟨rfl, rfl, fun _ => rfl⟩

/-- **Greedy batches.** Between two deeds of its owner a channel has less in its buffer than fills a
batch, and the size that it reckons with is the size of that. If a closing is in time, the batches
that were let go, numbered from one, are the operations that were added, cut greedily. -/
theorem greedily_cut (cluster : Cluster σ τ) (index : String) (tuning : Tuning)
    (backoff : BackoffPolicy) (tally : RunTally) (now : Nat) (s : σ) (allowance : Nat)
    (deeds : List Deed) (timeout : Nat) :
    let opened : Traffic σ τ :=
      { channel := .ofTally index tuning.limits backoff tally, now, cluster := s, allowance }
    let written := deeds.foldl (operate cluster) opened
    let buffer := written.channel.buffer.toList
    (buffer = [] ∨ buffer.length < max tuning.bulkActions 1 ∧
      ∀ limit, tuning.bulkSizeBytes = some limit → written.channel.bufferedBytes < limit) ∧
    written.channel.bufferedBytes = Operation.bytesOf buffer ∧
    ((written.close cluster timeout).1 = true → ∃ (log : Log) (batches : List (List Operation)),
      Course (Pass cluster) opened log (written.close cluster timeout).2 ∧
        log.taken = Deed.added deeds ∧
        log.letGo = batches.zipIdx 1 ∧ tuning.Greedy (Deed.added deeds) batches) := by
  intro opened written buffer
  let ops := Deed.added deeds
  obtain ⟨log, course, taken, letGo, gathers⟩ :=
    logged_operateAll cluster deeds (t := opened) (gathers_opened index tuning.limits backoff tally)
  obtain ⟨inBuffer, reckoned, -, -⟩ :=
    Channel.desk_eq_iff.1 (show written.channel.desk = _ from gathers.desk)
  have gathered : buffer = (tuning.limits.cutAll [] ops).2 := by
    show written.channel.buffer.toList = _
    rw [inBuffer]
  have bytes : written.channel.bufferedBytes = Operation.bytesOf buffer := by
    rw [reckoned, gathered]
  refine ⟨?_, bytes, fun inTime => ?_⟩
  · have short := (tuning.limits.cutAll_greedy tuning.limits.short_nil ops).2
    rw [← gathered] at short
    by_cases none : buffer = []
    · exact .inl none
    · have lacking : ¬ tuning.Fills buffer := by
        rw [← tuning.isBatch_limits, ← List.take_length (l := buffer),
          short buffer.length (List.length_pos_iff.2 none) (Nat.le_refl _)]
        exact Bool.false_ne_true
      refine .inr ⟨Nat.lt_of_not_le fun many => lacking (.inl many), fun limit given => ?_⟩
      rw [bytes]
      exact Nat.lt_of_not_le fun large => lacking (.inr ⟨limit, given, large⟩)
  · obtain ⟨last, course', none, letGo'⟩ := logged_close cluster gathers inTime
    refine ⟨log ++ last, tuning.limits.batches ops, course.trans course', ?_, ?_,
      tuning.greedy_batches ops⟩
    · rw [Log.taken_append, taken, none, List.append_nil]
    · rw [Log.letGo_append, letGo, letGo', Nat.add_right_comm, ← List.zipIdx_append]
      exact congrArg (List.zipIdx · 1) (tuning.limits.batches_eq ops).symm

/-- One batch is cut for its size, one for its number of operations, and one is what is left, while
two batches may be under way and each takes its time. -/
theorem greedily_cut_mixed :
    let tuning : Tuning := { bulkActions := 3, bulkRequests := 2, bulkSizeBytes := some 170 }
    let opened : Traffic MemoryCluster Unit :=
      { channel := .ofTally "books1" tuning.limits {} {}, now := 0, cluster := { latency := 40 } }
    let deeds : List Deed :=
      [.add ⟨.delete, "a", none⟩,
        .add ⟨.index, "b", some "\"a text of some length, and more than that, and more\""⟩,
        .add ⟨.delete, "c", none⟩, .rest 10, .add ⟨.delete, "d", none⟩, .add ⟨.delete, "e", none⟩,
        .add ⟨.delete, "f", none⟩]
    let closed :=
      (deeds.foldl (operate MemoryCluster.cluster) opened).close MemoryCluster.cluster 100
    closed.1 = true ∧ ∃ (log : Log) (batches : List (List Operation)),
      Course (Pass MemoryCluster.cluster) opened log closed.2 ∧ log.taken = Deed.added deeds ∧
        log.letGo = batches.zipIdx 1 ∧ tuning.Greedy (Deed.added deeds) batches := by
  intro tuning opened deeds closed
  have inTime : closed.1 = true := by decide +kernel
  exact ⟨inTime,
    (greedily_cut MemoryCluster.cluster "books1" tuning {} {} 0
      { latency := 40 } turnAllowance deeds
    100).2.2 inTime⟩

end Traffic

end Reindex
