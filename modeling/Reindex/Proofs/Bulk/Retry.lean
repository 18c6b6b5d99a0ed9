import Reindex.Proofs.Bulk.Round

/-!
# What the rounds of a batch are like

The answers to the bulk calls of a batch may be any: results with any statuses, as many as there
were operations or not, failures of the whole call that may pass or last, calls that died.
`Round.Retried` says what the rounds are like all the same, and what becomes of the batch behind
them.

Main statement: `Flight.land_retried`. It rests on `Submission.finished_cases`, the three ways in
which a batch ends.
-/

namespace Reindex

variable {σ τ : Type}

/-! ## The last round -/

namespace ItemResult

/-- Only a result that was pushed back is given up. -/
theorem giveUp_of_settled {r : ItemResult} (h : r.isRejected = false) : r.giveUp = r := by
  unfold giveUp
  rw [h]
  rfl

theorem isRejected_giveUp (r : ItemResult) : r.giveUp.isRejected = r.isRejected := by
  unfold giveUp
  split <;> rfl

theorem error_giveUp {r : ItemResult} (h : r.giveUp.isRejected = true) :
    r.giveUp.error.isSome = true := by
  rw [isRejected_giveUp] at h
  unfold giveUp
  cases he : r.error <;> simp [h, he]

end ItemResult

namespace Slot

variable {slots : List Slot}

theorem settled_of_mem_results (h : slots.all (!·.isOpen) = true) {r : ItemResult}
    (hr : r ∈ results slots) :
    r.isRejected = false := by
  obtain ⟨slot, mem, answer⟩ := List.mem_filterMap.1 hr
  have closed := List.all_eq_true.1 h slot mem
  simpa [isOpen, answer] using closed

theorem giveUp_results (h : slots.all (!·.isOpen) = true) :
    (results slots).map ItemResult.giveUp = results slots :=
  (List.map_congr_left fun _ hr => ItemResult.giveUp_of_settled (settled_of_mem_results h hr)).trans
    (List.map_id _)

theorem closed_refuseOpen (reason : String) (slots : List Slot) :
    (refuseOpen reason slots).all (!·.isOpen) = true := by
  refine List.all_eq_true.2 fun slot hs => ?_
  obtain ⟨slot, -, rfl⟩ := List.mem_map.1 hs
  cases open? : slot.isOpen with
  | true => rfl
  | false => simp [open?]

end Slot

theorem Delays.remaining_of_next?_none {d : Delays} (h : d.next? = none) : d.remaining = 0 := by
  unfold next? at h
  split at h
  · assumption
  · cases h

theorem Submission.died_of_receive {s : Submission} {answer : BulkAnswer}
    (h : s.receive? answer = none) :
    answer = .died := by
  cases answer with
  | died => rfl
  | failed failure => cases h
  | items items =>
    simp only [receive?] at h
    split at h <;> cases h

/-- **How a batch ends.** Results end it if nothing is open behind them or no wait is left, and a
failure of the whole call if it is not worth another attempt or no wait is left. -/
theorem Submission.finished_cases {s : Submission} {answer : BulkAnswer} {result : BatchResult}
    (h : s.receive? answer = some (.finished result)) :
    (∃ items, answer = .items items ∧ items.length = s.attempt.length ∧
      ((Slot.fill s.slots items).all (!·.isOpen) = true ∨ s.delays.next? = none) ∧
      result = .completed ((Slot.results (Slot.fill s.slots items)).map ItemResult.giveUp)) ∨
    (∃ items, answer = .items items ∧ items.length ≠ s.attempt.length ∧
      result = .transportFailed (misaligned items.length s.attempt.length)) ∨
    ∃ failure, answer = .failed failure ∧ (failure.retryable = false ∨ s.delays.next? = none) ∧
      result = s.abandon failure := by
  cases answer with
  | died => cases h
  | items items =>
    simp only [receive?] at h
    split at h
    · simp only [receiveItems, Option.some.injEq] at h
      split at h
      · cases h
        exact .inl ⟨items, rfl, ‹_›, .inl ‹_›, by rw [Slot.giveUp_results ‹_›]⟩
      · split at h
        · cases h
        · cases h
          exact .inl ⟨items, rfl, ‹_›, .inr ‹_›, rfl⟩
    · cases h
      exact .inr (.inl ⟨items, rfl, ‹_›, rfl⟩)
  | failed failure =>
    simp only [receive?, receiveFailure, Option.some.injEq] at h
    split at h
    · split at h
      · cases h
      · cases h
        exact .inr (.inr ⟨failure, rfl, .inr ‹_›, rfl⟩)
    · cases h
      exact .inr (.inr ⟨failure, rfl, .inl (Bool.eq_false_iff.2 ‹_›), rfl⟩)

/-! ## What rounds are like -/

namespace Round

variable {ops : List Operation} {retries : Nat} {before rounds : List Round} {r : Round}
    {landing : Landing}

/-- The latest answer to the operation in a place pushed it back. -/
def isPushedBack (rounds : List Round) (place : Nat) : Bool :=
  (latest? rounds place).any ItemResult.isRejected

/-- The result of the operation in a place, after all rounds: its latest answer, which says that it
failed if it was pushed back, or the message of a failure by which the last round ended, if that
round carried it. -/
def outcome? (ops : List Operation) (rounds : List Round) (place : Nat) : Option ItemResult :=
  match rounds.getLast? with
  | some ⟨places, .failed failure⟩ =>
    if place ∈ places then ops[place]?.map (.refused · 0 failure.message) else latest? rounds place
  | _ => (latest? rounds place).map ItemResult.giveUp

theorem due_nil (ops : List Operation) : due ops [] = List.range ops.length := by
  simp [due, Slot.duePlaces, Slot.isDue, latest?_nil, List.range_eq_range']

theorem filterMap_range (ops : List Operation) (n : Nat) :
    (List.range n).filterMap (ops[·]?) = ops.take n := by
  induction n with
  | zero => simp
  | succ n ih =>
    rw [List.range_succ, List.filterMap_append, ih, List.take_add_one]
    cases h : ops[n]? <;> simp [h]

/-- A round that ended by a failure answers nothing. -/
theorem latest?_of_failed {failure : BulkFailure} (h : r.answer = .failed failure) :
    latest? (before ++ [r]) = latest? before := by
  funext p
  rw [latest?_append]
  simp [result?, h]

/-- It changes nothing about what is to be sent. -/
theorem due_of_failed {failure : BulkFailure} (h : r.answer = .failed failure) :
    due ops (before ++ [r]) = due ops before := by
  unfold due
  rw [latest?_of_failed h]

/-- An answer for each operation that a round carried leaves none without an answer. -/
theorem answered_of_items {results : List ItemResult} (placed : r.places = due ops before)
    (h : r.answer = .items results) (length : results.length = r.places.length) {p : Nat}
    (hp : p < ops.length) :
    (latest? (before ++ [r]) p).isSome = true := by
  rw [latest?_append]
  by_cases carried : p ∈ r.places
  · have found : r.result? p ≠ none := by
      unfold result?
      rw [h]
      intro none
      rw [List.lookup_eq_none_iff] at none
      have mem : p ∈ (r.places.zip results).map Prod.fst := by rwa [List.map_fst_zip (by omega)]
      obtain ⟨e, he, rfl⟩ := List.mem_map.1 mem
      simpa using none e he
    cases hr : r.result? p with
    | none => exact absurd hr found
    | some item => rfl
  · rw [placed, mem_due] at carried
    cases hl : latest? before p with
    | none => exact absurd ⟨hp, by rw [hl]; rfl⟩ carried
    | some item => cases r.result? p <;> rfl

/-- Then what is to be sent next is what was pushed back. -/
theorem due_of_items {results : List ItemResult} (placed : r.places = due ops before)
    (h : r.answer = .items results) (length : results.length = r.places.length) :
    due ops (before ++ [r]) = (List.range ops.length).filter (isPushedBack (before ++ [r])) := by
  unfold due Slot.duePlaces
  rw [List.range_eq_range']
  refine List.filter_congr fun p hp => ?_
  obtain ⟨item, hi⟩ :=
    Option.isSome_iff_exists.1 (answered_of_items placed h length (by simpa using hp))
  simp [isPushedBack, Slot.isDue, hi]

/-- An answer that settles an operation stays its latest one. -/
theorem latest?_of_settled {after : List Round} {place : Nat} {item : ItemResult}
    (placed : Placed ops (rounds ++ after)) (h : latest? rounds place = some item)
    (settled : item.isRejected = false) :
    latest? (rounds ++ after) place = some item := by
  induction after generalizing rounds with
  | nil => simpa using h
  | cons q after ih =>
    have notDue : place ∉ q.places := by
      rw [placed rounds q after rfl, mem_due]
      simp [h, Slot.isDue, settled]
    have silent : q.result? place = none := by
      unfold result?
      split
      · rw [List.lookup_eq_none_iff]
        intro e he
        have carried := (List.of_mem_zip he).1
        simp only [bne_iff_ne, ne_eq]
        rintro rfl
        exact notDue carried
      · rfl
    have further : rounds ++ q :: after = rounds ++ [q] ++ after := by simp
    rw [further] at placed ⊢
    exact ih placed (by rw [latest?_append, silent, h]; rfl)

/-- What the record of a batch that landed is like. -/
structure Retried (ops : List Operation) (retries : Nat) (rounds : List Round) (landing : Landing) :
    Prop where
  bounded : rounds.length ≤ retries + 1
  /-- The first round carries all operations. -/
  first : ∃ r rest, rounds = r :: rest ∧ r.places = List.range ops.length ∧ (r.call ops).ops = ops
  /-- Each later round carries, in order, the operations whose latest answer pushed them back;
  behind a failure of the whole call, which is one that may pass, it carries the same as before. -/
  next : ∀ before r r' after, rounds = before ++ r :: r' :: after →
    match r.answer with
    | .items results =>
      results.length = r.places.length ∧
        r'.places = (List.range ops.length).filter (isPushedBack (before ++ [r]))
    | .failed failure => failure.retryable = true ∧ r'.places = r.places
    | .died => False
  /-- What was answered and not pushed back is never sent again. -/
  settled : ∀ before r after place item, rounds = before ++ r :: after →
    r.result? place = some item →
    item.isRejected = false → ∀ r' ∈ after, place ∉ r'.places
  /-- A batch that ends with attempts left ends with nothing pushed back, or by a failure that does
  not pass. -/
  patient : rounds.length ≤ retries → ∀ before r, rounds = before ++ [r] →
    match r.answer with
    | .items results => results.length = r.places.length →
      ∀ p < ops.length, isPushedBack rounds p = false
    | .failed failure => failure.retryable = false
    | .died => True
  /-- One result for each operation, in the order of the batch. -/
  completed : ∀ items, landing = .reported (.completed items) →
    items.map some = (List.range ops.length).map (outcome? ops rounds) ∧
      ∀ item ∈ items, item.isRejected = true → item.error.isSome = true
  /-- A batch is lost by a failure that left all of it open, or by an answer with another number of
  results. -/
  lost : ∀ failure, landing = .reported (.transportFailed failure) →
    ∃ before r, rounds = before ++ [r] ∧
    (r.answer = .failed failure ∧ r.places = List.range ops.length ∨
      ∃ results, r.answer = .items results ∧ results.length ≠ r.places.length)
  died : landing = .died → ∃ r ∈ rounds, r.answer = .died

namespace Ended

/-- Where nothing is open, or no wait is left, behind results: every operation has an answer. -/
theorem answers {s : Submission} {results : List ItemResult} (hu : Underway ops retries before s)
    (placed : r.places = due ops before) (h : r.answer = .items results)
    (length : results.length = s.attempt.length) :
    (Slot.results (Slot.fill s.slots results)).map some = (List.range ops.length).map
    (latest? (before ++ [r])) := by
  have this : r = ⟨due ops before, .items results⟩ := by rw [← placed, ← h]
  rw [hu.fill, ← this, List.range_eq_range']
  refine Slot.results_ofAnswers fun p hp => answered_of_items placed h ?_ (by simpa using hp)
  rw [length, hu.length_attempt, placed]

/-- A failure that ends a batch settles what it carried. -/
theorem refusals {s : Submission} {failure : BulkFailure} (hu : Underway ops retries before s)
    (placed : r.places = due ops before) (h : r.answer = .failed failure) :
    (Slot.results (Slot.refuseOpen failure.message s.slots)).map some =
      (List.range ops.length).map (outcome? ops (before ++ [r])) := by
  have this : r = ⟨due ops before, .failed failure⟩ := by rw [← placed, ← h]
  rw [hu.slots, Slot.refuseOpen_ofAnswers _ _ 0 List.drop_zero, Slot.results_ofAnswers,
    List.range_eq_range']
  · refine List.map_congr_left fun p hp => ?_
    have inside : p < ops.length := by simpa using hp
    have carried : p ∈ due ops before ↔ Slot.isDue (latest? before p) = true := by
      simp [mem_due, inside]
    unfold outcome?
    rw [List.getLast?_concat, latest?_of_failed h, this]
    simp only [carried]
  · intro p hp
    have inside : p < ops.length := by simpa using hp
    cases hd : latest? before p with
    | none => simp [Slot.isDue, inside]
    | some item =>
      cases hi : item.isRejected <;> simp [Slot.isDue, hi, inside]

/-- Behind the last round every place has its outcome, and what is left pushed back carries an
error. -/
theorem completed (h : Ended ops retries before r landing) {items : List ItemResult}
    (hl : landing = .reported (.completed items)) :
    items.map some = (List.range ops.length).map (outcome? ops (before ++ [r])) ∧
      ∀ item ∈ items, item.isRejected = true → item.error.isSome = true := by
  obtain ⟨s, hu, placed, verdict⟩ := h
  have last : (before ++ [r]).getLast? = some r := List.getLast?_concat ..
  split at verdict
  · cases verdict.symm.trans hl
  · rename_i result finished
    cases verdict.symm.trans hl
    obtain ⟨results, answer, length, -, hr⟩ | ⟨_, _, _, hr⟩ | ⟨failure, answer, -, hr⟩ :=
      Submission.finished_cases finished
    · cases hr
      refine ⟨?_, fun item hi => ?_⟩
      · have outcome : outcome? ops (before ++ [r]) = fun p =>
          (latest? (before ++ [r]) p).map ItemResult.giveUp := by
          funext p
          unfold outcome?
          rw [last]
          split
          · rename_i failed
            cases failed
            cases answer
          · rfl
        have given :=
          congrArg (List.map (Option.map ItemResult.giveUp)) (answers hu placed answer length)
        rw [List.map_map, List.map_map] at given
        rw [outcome, List.map_map]
        exact given
      · obtain ⟨item, -, rfl⟩ := List.mem_map.1 hi
        exact ItemResult.error_giveUp
    · cases hr
    · unfold Submission.abandon at hr
      split at hr
      · cases hr
      · cases hr
        exact ⟨refusals hu placed answer, fun item hi rejected =>
          absurd rejected (by simp [Slot.settled_of_mem_results (Slot.closed_refuseOpen ..) hi])⟩
  · exact verdict.elim

/-- Attempts are left where there were fewer rounds than waits: then the end is one that another
attempt would not change. -/
theorem patient (h : Ended ops retries before r landing) (early : before.length < retries) :
    match r.answer with
    | .items results => results.length = r.places.length → ∀ p < ops.length, isPushedBack
        (before ++ [r]) p = false
    | .failed failure => failure.retryable = false
    | .died => True := by
  obtain ⟨s, hu, placed, verdict⟩ := h
  have left : s.delays.next? ≠ none := fun none => by
    have used := Delays.remaining_of_next?_none none
    have waits := hu.waits
    omega
  split at verdict
  · rename_i none
    rw [Submission.died_of_receive none]
    trivial
  · rename_i finished
    obtain ⟨results, answer, -, closed, -⟩ | ⟨results, answer, length, -⟩ | ⟨failure, answer,
      lasting, -⟩ :=
      Submission.finished_cases finished
    · have this : r = ⟨due ops before, .items results⟩ := by rw [← placed, ← answer]
      rw [answer]
      intro _ p hp
      have closed := closed.resolve_right left
      rw [hu.fill, ← this] at closed
      have settled := (Slot.all_ofAnswers _ 0 ops false).1 (by simpa using closed) p
        (by simpa using hp)
      unfold isPushedBack
      cases hl : latest? (before ++ [r]) p with
      | none => rfl
      | some item => simpa [Slot.isDue, hl] using settled
    · rw [answer]
      exact fun same => absurd (same.trans (by rw [placed, hu.length_attempt])) length
    · rw [answer]
      exact lasting.resolve_right left
  · exact verdict.elim

/-- A batch is lost by a failure that left all of it open, or by an answer with another number of
results. -/
theorem lost (h : Ended ops retries before r landing) {failure : BulkFailure}
    (hl : landing = .reported (.transportFailed failure)) :
    ∃ before' r', before ++ [r] = before' ++ [r'] ∧
      (r'.answer = .failed failure ∧ r'.places = List.range ops.length ∨
        ∃ results, r'.answer = .items results ∧ results.length ≠ r'.places.length) := by
  obtain ⟨s, hu, placed, verdict⟩ := h
  refine ⟨before, r, rfl, ?_⟩
  split at verdict
  · cases verdict.symm.trans hl
  · rename_i finished
    cases verdict.symm.trans hl
    obtain ⟨_, _, _, _, hr⟩ | ⟨results, answer, length, -⟩ | ⟨failure, answer, -, hr⟩ :=
      Submission.finished_cases finished
    · cases hr
    · exact .inr ⟨results, answer, by rwa [placed, ← hu.length_attempt]⟩
    · unfold Submission.abandon at hr
      split at hr
      · rename_i allOpen
        cases hr
        rw [hu.slots] at allOpen
        have open? := (Slot.all_ofAnswers _ 0 ops true).1 (by simpa using allOpen)
        refine .inl ⟨answer, placed.trans ?_⟩
        unfold due Slot.duePlaces
        rw [List.filter_eq_self.2 open?, List.range_eq_range']
      · cases hr
  · exact verdict.elim

end Ended

/-- **A batch that came to its end.** -/
theorem Ended.retried (h : Ended ops retries before r landing) :
    Retried ops retries (before ++ [r]) landing := by
  have ended := h
  obtain ⟨s, hu, placed, verdict⟩ := h
  have all : Placed ops (before ++ [r]) := hu.placed.append placed
  have waits := hu.waits
  refine ⟨?_, ?_, ?_, ?_, ?_, fun items hl => ended.completed hl,
    fun failure hl => ended.lost hl, ?_⟩
  · rw [List.length_append, List.length_singleton]
    omega
  · obtain ⟨first, rest, hf⟩ := List.exists_cons_of_ne_nil (l := before ++ [r]) (by simp)
    have places := (all [] first rest hf).trans (due_nil ops)
    refine ⟨first, rest, hf, places, ?_⟩
    show first.places.filterMap (ops[·]?) = ops
    rw [places, filterMap_range, List.take_length]
  · intro b q q' after hb
    have repeats : q.Repeats := by
      obtain ⟨init, last, hi⟩ := List.eq_nil_or_concat (q' :: after) |>.resolve_left (by simp)
      rw [hi, List.concat_eq_append, ← List.cons_append, ← List.append_assoc] at hb
      refine hu.repeats q ?_
      rw [(List.append_inj' hb rfl).1]
      exact List.mem_append_right _ (.head _)
    have here := all b q (q' :: after) hb
    have next := all (b ++ [q]) q' after (by rw [hb]; simp)
    unfold Repeats at repeats
    split <;> rename_i answer <;> rw [answer] at repeats
    · exact ⟨repeats, next.trans (due_of_items here answer repeats)⟩
    · exact ⟨repeats, next.trans ((due_of_failed answer).trans here.symm)⟩
    · exact repeats
  · intro b q after place item hb hq settled q' hq'
    obtain ⟨a, a', rfl⟩ := List.append_of_mem hq'
    have split : before ++ [r] = (b ++ [q] ++ a) ++ q' :: a' := by rw [hb]; simp
    have earlier : Placed ops (b ++ [q] ++ a) := fun b' r' a'' hb' =>
      all b' r' (a'' ++ q' :: a') (by rw [split, hb']; simp)
    have latest : latest? (b ++ [q] ++ a) place = some item :=
      latest?_of_settled earlier (by rw [latest?_append, hq]; rfl) settled
    rw [all _ q' a' split, mem_due, latest]
    simp [Slot.isDue, settled]
  · intro early b q hb
    obtain ⟨rfl, hq⟩ := List.append_inj' hb rfl
    cases hq
    rw [List.length_append, List.length_singleton] at early
    exact ended.patient (by omega)
  · intro hl
    split at verdict
    · exact ⟨r, List.mem_append_right _ (.head _), Submission.died_of_receive ‹_›⟩
    · cases verdict.symm.trans hl
    · exact verdict.elim

end Round

/-- **The retry loop.** A batch is followed from its first bulk call to its landing, on any cluster,
whatever this answers. -/
theorem Flight.land_retried (cluster : Cluster σ τ) (index : String) (batch now : Nat)
    (ops : List Operation) (backoff : BackoffPolicy) (s : σ) :
    let flight : Flight τ :=
      { batch, submission := .ofOperations ops backoff, phase := .sending, due := now }
    let told := flight.land cluster.logged index ⟨s, []⟩
    flight.land cluster index s = (told.1, told.2.state) ∧
      ∃ rounds, told.2.calls = rounds.map (Round.call ops) ∧
        Round.Retried ops backoff.maxRetries rounds told.1 := by
  intro flight told
  obtain ⟨before, r, calls, ended⟩ :=
    flight.rounds_of_land cluster index (s := ⟨s, []⟩) rfl
      (Round.Underway.ofOperations ops backoff) rfl
  exact ⟨flight.land_logged cluster index ⟨s, []⟩, before ++ [r], calls, ended.retried⟩

end Reindex
