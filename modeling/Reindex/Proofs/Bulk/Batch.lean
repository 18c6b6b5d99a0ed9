import Reindex.Bulk.Flight

/-!
# What a batch keeps

A batch may go out several times. Whatever the answers are, its operations stay as they are and
where they are. When each answer is about the operations that were sent, a batch that is answered in
the end has one result for each of its operations, of the same kind and id, and a batch that goes
out again has an operation left to send.

Main statement: `Flight.hear_sound` says so of every answer that a flight can hear.
-/

namespace Reindex

/-- What an operation is about. -/
def Operation.target (op : Operation) : OpKind × String := (op.kind, op.id)

/-- What a result is about. -/
def ItemResult.target (r : ItemResult) : OpKind × String := (r.kind, r.id)

/-! ## Slots -/

namespace Slot

/-- The answer, if there is one, is about the operation. -/
def Fits (s : Slot) : Prop := ∀ r ∈ s.answer, r.target = s.op.target

theorem answered_of_closed {s : Slot} (h : s.isOpen = false) : s.answer.isSome = true := by
  unfold isOpen at h
  cases ha : s.answer with
  | none => rw [ha] at h; cases h
  | some r => rfl

theorem fill_operations (slots : List Slot) (items : List ItemResult) :
    (fill slots items).map (·.op) = slots.map (·.op) := by
  induction slots generalizing items with
  | nil => rfl
  | cons s slots ih =>
    unfold fill
    by_cases hs : s.isOpen
    · cases items with
      | nil => simp [hs]
      | cons r items => simp [hs, ih]
    · simp [hs, ih]

/-- The operations that an attempt sends, of some slots. -/
def openOperations (slots : List Slot) : List Operation := (slots.filter isOpen).map (·.op)

theorem openOperations_cons (s : Slot) (slots : List Slot) :
    openOperations (s :: slots) =
      if s.isOpen then s.op :: openOperations slots else openOperations slots := by
  unfold openOperations
  rw [List.filter_cons]
  split <;> rfl

theorem fill_fits {slots : List Slot} {items : List ItemResult} (hf : ∀ s ∈ slots, s.Fits)
    (ha : items.map ItemResult.target = (openOperations slots).map Operation.target) :
    ∀ s ∈ fill slots items, s.Fits := by
  induction slots generalizing items with
  | nil => exact hf
  | cons s slots ih =>
    rw [openOperations_cons] at ha
    unfold fill
    by_cases hs : s.isOpen
    · rw [if_pos hs] at ha ⊢
      cases items with
      | nil => exact hf
      | cons r items =>
        simp only [List.map_cons, List.cons.injEq] at ha
        intro u hu
        rcases List.mem_cons.1 hu with rfl | hu
        · intro q hq
          cases hq
          exact ha.1
        · exact ih (fun v hv => hf v (.tail _ hv)) ha.2 u hu
    · rw [if_neg hs] at ha ⊢
      intro u hu
      rcases List.mem_cons.1 hu with rfl | hu
      · exact hf u (.head _)
      · exact ih (fun v hv => hf v (.tail _ hv)) ha u hu

theorem fill_answered {slots : List Slot} {items : List ItemResult}
    (hl : items.length = (openOperations slots).length) :
    ∀ s ∈ fill slots items, s.answer.isSome = true := by
  induction slots generalizing items with
  | nil => exact fun s hs => by cases hs
  | cons s slots ih =>
    rw [openOperations_cons] at hl
    unfold fill
    by_cases hs : s.isOpen
    · rw [if_pos hs] at hl ⊢
      cases items with
      | nil => cases hl
      | cons r items =>
        intro u hu
        rcases List.mem_cons.1 hu with rfl | hu
        · rfl
        · exact ih (Nat.succ.inj hl) u hu
    · rw [if_neg hs] at hl ⊢
      intro u hu
      rcases List.mem_cons.1 hu with rfl | hu
      · exact answered_of_closed (Bool.eq_false_iff.2 hs)
      · exact ih hl u hu

theorem refuseOpen_operations (reason : String) (slots : List Slot) :
    (refuseOpen reason slots).map (·.op) = slots.map (·.op) := by
  unfold refuseOpen
  rw [List.map_map]
  refine List.map_congr_left fun s _ => ?_
  dsimp only [Function.comp]
  split <;> rfl

theorem refuseOpen_fits {slots : List Slot} (reason : String) (hf : ∀ s ∈ slots, s.Fits) :
    ∀ s ∈ refuseOpen reason slots, s.Fits := by
  intro u hu
  obtain ⟨s, hs, rfl⟩ := List.mem_map.1 hu
  split
  · intro r hr
    cases hr
    rfl
  · exact hf s hs

theorem refuseOpen_answered (reason : String) (slots : List Slot) :
    ∀ s ∈ refuseOpen reason slots, s.answer.isSome = true := by
  intro u hu
  obtain ⟨s, hs, rfl⟩ := List.mem_map.1 hu
  split
  · rfl
  · rename_i h
    exact answered_of_closed (Bool.eq_false_iff.2 h)

/-- Slots that all have fitting answers give one result for each operation. -/
theorem results_targets {slots : List Slot} (hf : ∀ s ∈ slots, s.Fits)
    (ha : ∀ s ∈ slots, s.answer.isSome = true) :
    (results slots).map ItemResult.target = (slots.map (·.op)).map Operation.target := by
  induction slots with
  | nil => rfl
  | cons s slots ih =>
    obtain ⟨r, hr⟩ := Option.isSome_iff_exists.1 (ha s (.head _))
    have tail := ih (fun u hu => hf u (.tail _ hu)) (fun u hu => ha u (.tail _ hu))
    unfold results at tail ⊢
    rw [List.filterMap_cons_some hr, List.map_cons, List.map_cons, List.map_cons, tail,
      hf s (.head _) r hr]

end Slot

theorem ItemResult.giveUp_target (r : ItemResult) : r.giveUp.target = r.target := by
  unfold giveUp
  split <;> rfl

/-! ## Answers about operations -/

/-- The answer is about the operations: one result for each, of its kind and id. -/
def BulkAnswer.Fits (ops : List Operation) : BulkAnswer → Prop
  | .items results => results.map ItemResult.target = ops.map Operation.target
  | .failed _ => True
  | .died => False

/-- The results are about the operations. -/
def BatchResult.Fits (ops : List Operation) : BatchResult → Prop
  | .completed items => items.map ItemResult.target = ops.map Operation.target
  | .transportFailed _ => True

/-- A batch of these operations can end like this. -/
def Landing.Fits (ops : List Operation) : Landing → Prop
  | .reported result => result.Fits ops
  | .died => False

/-- A cluster whose bulk calls all end with an answer about what was sent, or as a failure. -/
def Cluster.Aligned {σ τ : Type} (cluster : Cluster σ τ) : Prop :=
  ∀ ticket index ops s, (cluster.finishBulk ticket index ops s).1.Fits ops

theorem Cluster.Aligned.fits {σ τ : Type} {cluster : Cluster σ τ} (aligned : cluster.Aligned)
    {ticket : τ} {index : String} {ops : List Operation} {s s' : σ} {answer : BulkAnswer}
    (h : cluster.finishBulk ticket index ops s = (answer, s')) : answer.Fits ops := by
  have fits := aligned ticket index ops s
  rw [h] at fits
  exact fits

/-! ## Submissions -/

/-- A batch on its way: what is answered fits, and something is left to send. -/
structure Submission.Sound (s : Submission) : Prop where
  fits : ∀ slot ∈ s.slots, slot.Fits
  unsettled : s.attempt ≠ []

namespace Submission

theorem attempt_eq (s : Submission) : s.attempt = Slot.openOperations s.slots := rfl

theorem ofOperations_operations (ops : List Operation) (backoff : BackoffPolicy) :
    (ofOperations ops backoff).slots.map (·.op) = ops := by
  unfold ofOperations
  rw [List.map_map]
  exact List.map_id' ops

theorem ofOperations_sound {ops : List Operation} (h : ops ≠ []) (backoff : BackoffPolicy) :
    (ofOperations ops backoff).Sound where
  fits := by
    intro slot hs r hr
    obtain ⟨op, -, rfl⟩ := List.mem_map.1 hs
    cases hr
  unsettled := by
    obtain ⟨op, rest, rfl⟩ := List.exists_cons_of_ne_nil h
    rw [attempt_eq]
    unfold ofOperations
    rw [List.map_cons, Slot.openOperations_cons]
    exact List.cons_ne_nil _ _

theorem unsettled_of_not_all_closed {slots : List Slot} (delays : Delays)
    (h : ¬ slots.all (!·.isOpen) = true) :
    (Submission.mk slots delays).attempt ≠ [] := by
  intro hn
  refine h (List.all_eq_true.2 fun s hs => ?_)
  rw [attempt_eq] at hn
  have hnone : slots.filter Slot.isOpen = [] := List.map_eq_nil_iff.1 hn
  simpa using List.filter_eq_nil_iff.1 hnone s hs

/-- What goes out again are the operations that there were. -/
theorem operations_of_receive {s next : Submission} {answer : BulkAnswer} {wait : Nat}
    (h : s.receive? answer = some (.resend wait next)) :
    next.slots.map (·.op) = s.slots.map (·.op) := by
  unfold receive? at h
  cases answer with
  | died => cases h
  | failed failure =>
    simp only [receiveFailure] at h
    split at h
    · split at h <;> cases h
      rfl
    · cases h
  | items items =>
    simp only at h
    split at h
    · simp only [receiveItems] at h
      split at h
      · cases h
      · split at h <;> cases h
        exact Slot.fill_operations _ _
    · cases h

theorem abandon_fits {s : Submission} (hs : ∀ slot ∈ s.slots, slot.Fits) (failure : BulkFailure) :
    (s.abandon failure).Fits (s.slots.map (·.op)) := by
  unfold abandon
  split
  · trivial
  · have hr := Slot.results_targets (Slot.refuseOpen_fits failure.message hs)
      (Slot.refuseOpen_answered _ _)
    rwa [Slot.refuseOpen_operations] at hr

theorem receiveFailure_sound {s : Submission} (hs : s.Sound) (failure : BulkFailure) :
    match s.receiveFailure failure with
    | .resend _ next => next.Sound
    | .finished result => result.Fits (s.slots.map (·.op)) := by
  unfold receiveFailure
  by_cases hr : failure.retryable
  · rw [if_pos hr]
    cases s.delays.next? with
    | none => exact abandon_fits hs.fits failure
    | some d => exact ⟨hs.fits, hs.unsettled⟩
  · rw [if_neg hr]
    exact abandon_fits hs.fits failure

theorem receiveItems_sound {s : Submission} (hs : s.Sound) {items : List ItemResult}
    (ha : items.map ItemResult.target = s.attempt.map Operation.target) :
    match s.receiveItems items with
    | .resend _ next => next.Sound
    | .finished result => result.Fits (s.slots.map (·.op)) := by
  have hl : items.length = s.attempt.length := by simpa using congrArg List.length ha
  have fits := Slot.fill_fits hs.fits ha
  have hr := Slot.results_targets fits (Slot.fill_answered hl)
  rw [Slot.fill_operations] at hr
  unfold receiveItems
  dsimp only
  by_cases hc : (Slot.fill s.slots items).all (!·.isOpen) = true
  · rw [if_pos hc]
    exact hr
  · rw [if_neg hc]
    cases s.delays.next? with
    | none =>
      show List.map _ (List.map _ _) = _
      rw [List.map_map, ← hr]
      exact List.map_congr_left fun r _ => ItemResult.giveUp_target r
    | some d => exact ⟨fits, unsettled_of_not_all_closed _ hc⟩

end Submission

/-! ## Flights -/

theorem Flight.operations_of_hear {τ : Type} {now : Nat} {f g : Flight τ} {answer : BulkAnswer}
    (h : f.hear now answer = .airborne g) :
    g.submission.slots.map (·.op) = f.submission.slots.map (·.op) := by
  unfold hear at h
  split at h
  · cases h
  · cases h
  · rename_i hr
    cases h
    exact Submission.operations_of_receive hr

/-- **An answer about what was sent.** The batch lands with results about all of its operations, or
as lost, or something is left to send. -/
theorem Flight.hear_sound {τ : Type} (now : Nat) {f : Flight τ} {answer : BulkAnswer}
    (hs : f.submission.Sound) (ha : answer.Fits f.submission.attempt) :
    match f.hear now answer with
    | .airborne g => g.submission.Sound
    | .landed landing => landing.Fits (f.submission.slots.map (·.op)) := by
  have verdict : ∃ v, f.submission.receive? answer = some v ∧
      match v with
      | .resend _ next => next.Sound
      | .finished result => result.Fits (f.submission.slots.map (·.op)) := by
    cases answer with
    | died => cases ha
    | failed failure => exact ⟨_, rfl, Submission.receiveFailure_sound hs failure⟩
    | items items =>
      have hl : items.length = f.submission.attempt.length := by simpa using congrArg List.length ha
      exact ⟨_, if_pos hl, Submission.receiveItems_sound hs ha⟩
  obtain ⟨v, hv, sound⟩ := verdict
  unfold hear
  rw [hv]
  cases v with
  | resend wait next => exact sound
  | finished result => exact sound

end Reindex
