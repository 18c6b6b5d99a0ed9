import Reindex.Proofs.Bulk.Settlement

/-!
# What was acknowledged

An operation is acknowledged by a result without an error. A batch holds what was acknowledged of it
until it ends or is given up: an operation that was pushed back has none of it, as long as whoever
pushes back says so.

Main statements: `Flight.hear_acknowledged` for one answer, `Traffic.Move.acknowledges` for one
move, and `History.acknowledged_perm`, by which, under a ledger without failures, an operation is
acknowledged unless its batch was given up.
-/

namespace Reindex

/-- The operations whose results carry no error. -/
def acknowledgedBy : List Operation → List ItemResult → List Operation
  | op :: ops, r :: items =>
    if r.error.isNone then op :: acknowledgedBy ops items else acknowledgedBy ops items
  | _, _ => []

theorem acknowledgedBy_nil (ops : List Operation) : acknowledgedBy ops [] = [] := by
  cases ops <;> rfl

/-- A result that was pushed back says so in an error. -/
def ItemResult.Candid (r : ItemResult) : Prop := r.isRejected = true → r.error.isSome = true

namespace BulkAnswer

/-- The operations that an answer acknowledges. -/
def acknowledged (ops : List Operation) : BulkAnswer → List Operation
  | .items results => acknowledgedBy ops results
  | _ => []

def Candid : BulkAnswer → Prop
  | .items results => ∀ r ∈ results, r.Candid
  | _ => True

end BulkAnswer

/-- A cluster that gives a reason whenever it pushes back. -/
def Cluster.Candid {σ τ : Type} (cluster : Cluster σ τ) : Prop :=
  ∀ ticket index ops s, (cluster.finishBulk ticket index ops s).1.Candid

theorem Cluster.Candid.answer {σ τ : Type} {cluster : Cluster σ τ} (candid : cluster.Candid)
    {ticket : τ} {index : String} {ops : List Operation} {s s' : σ} {answer : BulkAnswer}
    (h : cluster.finishBulk ticket index ops s = (answer, s')) : answer.Candid := by
  have told := candid ticket index ops s
  rw [h] at told
  exact told

/-! ## Slots -/

namespace Slot

/-- The latest answer carries no error. -/
def isAcknowledged (s : Slot) : Bool := (s.answer.map (·.error.isNone)).getD false

def acknowledged (slots : List Slot) : List Operation := (slots.filter isAcknowledged).map (·.op)

/-- The operations without an answer, and those with one that carries an error. -/
def unacknowledged (slots : List Slot) : List Operation :=
  (slots.filter (!·.isAcknowledged)).map (·.op)

def Candid (s : Slot) : Prop := ∀ r ∈ s.answer, r.Candid

theorem not_acknowledged_of_open {s : Slot} (hs : s.Candid) (ho : s.isOpen = true) :
    s.isAcknowledged = false := by
  unfold isOpen at ho
  unfold isAcknowledged
  cases ha : s.answer with
  | none => rfl
  | some r =>
    rw [ha] at ho
    have error := hs r ha ho
    simpa using error

theorem acknowledged_cons (s : Slot) (slots : List Slot) :
    acknowledged (s :: slots) =
      if s.isAcknowledged then s.op :: acknowledged slots else acknowledged slots := by
  unfold acknowledged
  rw [List.filter_cons]
  split <;> rfl

theorem acknowledged_of_all_open {slots : List Slot} (hs : ∀ s ∈ slots, s.Candid)
    (ho : slots.all isOpen = true) :
    acknowledged slots = [] := by
  unfold acknowledged
  rw [List.map_eq_nil_iff, List.filter_eq_nil_iff]
  intro s hm ha
  rw [not_acknowledged_of_open (hs s hm) (List.all_eq_true.1 ho s hm)] at ha
  cases ha

/-- Each operation is acknowledged or not. -/
theorem operations_perm (slots : List Slot) :
    (slots.map (·.op)).Perm (acknowledged slots ++ unacknowledged slots) := by
  unfold acknowledged unacknowledged
  rw [← List.map_append]
  exact (List.filter_append_perm isAcknowledged slots).symm.map _

/-- What is open is not acknowledged. -/
theorem unacknowledged_ne_nil {slots : List Slot} (hs : ∀ s ∈ slots, s.Candid)
    (ho : openOperations slots ≠ []) :
    unacknowledged slots ≠ [] := by
  obtain ⟨op, hop⟩ := List.exists_mem_of_ne_nil _ ho
  obtain ⟨s, hm, -⟩ := List.mem_map.1 hop
  obtain ⟨hm, ho⟩ := List.mem_filter.1 hm
  have kept : s ∈ slots.filter (!·.isAcknowledged) :=
    List.mem_filter.2 ⟨hm, by rw [not_acknowledged_of_open (hs s hm) ho]; rfl⟩
  exact List.ne_nil_of_mem (List.mem_map_of_mem kept)

theorem fill_candid {slots : List Slot} {items : List ItemResult} (hs : ∀ s ∈ slots, s.Candid)
    (hi : ∀ r ∈ items, r.Candid) : ∀ s ∈ fill slots items, s.Candid := by
  induction slots generalizing items with
  | nil => exact hs
  | cons s slots ih =>
    unfold fill
    by_cases ho : s.isOpen
    · rw [if_pos ho]
      cases items with
      | nil => exact hs
      | cons r items =>
        intro u hu
        rcases List.mem_cons.1 hu with rfl | hu
        · rintro q ⟨⟩
          exact hi r (.head _)
        · exact ih (fun v hv => hs v (.tail _ hv)) (fun q hq => hi q (.tail _ hq)) u hu
    · rw [if_neg ho]
      intro u hu
      rcases List.mem_cons.1 hu with rfl | hu
      · exact hs u (.head _)
      · exact ih (fun v hv => hs v (.tail _ hv)) hi u hu

theorem results_candid {slots : List Slot} (hs : ∀ s ∈ slots, s.Candid) :
    ∀ r ∈ results slots, r.Candid := by
  intro r hr
  obtain ⟨s, hm, ha⟩ := List.mem_filterMap.1 hr
  exact hs s hm r ha

/-- Results for the open slots add what they acknowledge. -/
theorem acknowledged_fill {slots : List Slot} (items : List ItemResult)
    (hs : ∀ s ∈ slots, s.Candid) :
    (acknowledged (fill slots items)).Perm
    (acknowledged slots ++ acknowledgedBy (openOperations slots) items) := by
  induction slots generalizing items with
  | nil => exact .refl _
  | cons s slots ih =>
    have rest (items : List ItemResult) := ih items fun v hv => hs v (.tail _ hv)
    rw [openOperations_cons, acknowledged_cons]
    unfold fill
    by_cases ho : s.isOpen
    · rw [if_pos ho, if_pos ho, not_acknowledged_of_open (hs s (.head _)) ho,
        if_neg Bool.false_ne_true]
      cases items with
      | nil =>
        rw [acknowledgedBy_nil, List.append_nil, acknowledged_cons,
          not_acknowledged_of_open (hs s (.head _)) ho, if_neg Bool.false_ne_true]
      | cons r items =>
        dsimp only
        rw [acknowledged_cons]
        unfold acknowledgedBy isAcknowledged
        by_cases hr : r.error.isNone
        · simpa [hr] using ((rest items).cons s.op).trans List.perm_middle.symm
        · simpa [hr] using rest items
    · rw [if_neg ho, if_neg ho, acknowledged_cons]
      by_cases ha : s.isAcknowledged
      · rw [if_pos ha, if_pos ha]
        exact (rest items).cons s.op
      · rw [if_neg ha, if_neg ha]
        exact rest items

/-- The results of slots that all have an answer acknowledge what the slots do. -/
theorem acknowledgedBy_results {slots : List Slot} (ha : ∀ s ∈ slots, s.answer.isSome = true) :
    acknowledgedBy (slots.map (·.op)) (results slots) = acknowledged slots := by
  induction slots with
  | nil => rfl
  | cons s slots ih =>
    obtain ⟨r, hr⟩ := Option.isSome_iff_exists.1 (ha s (.head _))
    have tail := ih fun u hu => ha u (.tail _ hu)
    unfold results at tail ⊢
    rw [List.filterMap_cons_some hr, List.map_cons, acknowledged_cons]
    unfold acknowledgedBy isAcknowledged
    rw [tail, hr]
    rfl

/-- A refusal acknowledges nothing, and takes nothing back. -/
theorem acknowledged_refuseOpen (reason : String) {slots : List Slot} (hs : ∀ s ∈ slots, s.Candid) :
    acknowledged (refuseOpen reason slots) = acknowledged slots := by
  induction slots with
  | nil => rfl
  | cons s slots ih =>
    have tail := ih fun u hu => hs u (.tail _ hu)
    unfold refuseOpen at tail ⊢
    rw [List.map_cons, acknowledged_cons, acknowledged_cons, tail]
    by_cases ho : s.isOpen
    · rw [if_pos ho, not_acknowledged_of_open (hs s (.head _)) ho]
      rfl
    · rw [if_neg ho]

end Slot

theorem ItemResult.giveUp_of_candid {r : ItemResult} (hr : r.Candid) : r.giveUp = r := by
  unfold giveUp
  refine if_neg fun h => ?_
  rw [Bool.and_eq_true] at h
  have error := hr h.1
  rw [Option.isNone_iff_eq_none.1 h.2] at error
  cases error

/-! ## Submissions -/

/-- A batch whose answers give their reasons. -/
def Submission.Candid (s : Submission) : Prop := ∀ slot ∈ s.slots, slot.Candid

/-- The results that a batch ends with. -/
def BatchResult.items (result : BatchResult) : List ItemResult := (Landing.reported result).items

namespace Submission

theorem abandon_acknowledged {s : Submission} (hs : s.Candid) (failure : BulkFailure) :
    acknowledgedBy (s.slots.map (·.op)) (s.abandon failure).items = Slot.acknowledged s.slots := by
  unfold abandon
  by_cases ho : s.slots.all Slot.isOpen = true
  · rw [if_pos ho, Slot.acknowledged_of_all_open hs ho]
    exact acknowledgedBy_nil _
  · rw [if_neg ho, ← Slot.acknowledged_refuseOpen failure.message hs,
      ← Slot.refuseOpen_operations failure.message]
    exact Slot.acknowledgedBy_results (Slot.refuseOpen_answered _ _)

/-- A verdict that leaves of a batch what was acknowledged before, and these operations besides. -/
def Verdict.Adds (s : Submission) (ops : List Operation) : Verdict → Prop
  | .resend _ next => next.Candid ∧ (Slot.acknowledged next.slots).Perm
      (Slot.acknowledged s.slots ++ ops)
  | .finished result => (acknowledgedBy (s.slots.map (·.op)) result.items).Perm
      (Slot.acknowledged s.slots ++ ops)

theorem abandon_adds {s : Submission} (hs : s.Candid) (failure : BulkFailure) :
    (Verdict.finished (s.abandon failure)).Adds s [] := by
  show (acknowledgedBy _ _).Perm _
  rw [abandon_acknowledged hs, List.append_nil]

theorem receiveFailure_adds {s : Submission} (hs : s.Candid) (failure : BulkFailure) :
    (s.receiveFailure failure).Adds s [] := by
  unfold receiveFailure
  by_cases hr : failure.retryable
  · rw [if_pos hr]
    cases s.delays.next? with
    | none => exact abandon_adds hs failure
    | some d => exact ⟨hs, by rw [List.append_nil]⟩
  · rw [if_neg hr]
    exact abandon_adds hs failure

theorem receiveItems_adds {s : Submission} (hs : s.Candid) {items : List ItemResult}
    (hl : items.length = s.attempt.length) (hi : ∀ r ∈ items, r.Candid) :
    (s.receiveItems items).Adds s (acknowledgedBy s.attempt items) := by
  have candid := Slot.fill_candid hs hi
  have filled := Slot.acknowledged_fill items hs
  have answered : ∀ slot ∈ Slot.fill s.slots items, slot.answer.isSome = true :=
    Slot.fill_answered hl
  have results := Slot.acknowledgedBy_results answered
  rw [Slot.fill_operations] at results
  rw [← attempt_eq] at filled
  unfold receiveItems
  dsimp only
  by_cases hc : (Slot.fill s.slots items).all (!·.isOpen) = true
  · rw [if_pos hc]
    rw [← results] at filled
    exact filled
  · rw [if_neg hc]
    cases s.delays.next? with
    | none =>
      -- what is given up was pushed back, and says so already
      have same : (Slot.results (Slot.fill s.slots items)).map ItemResult.giveUp =
          Slot.results (Slot.fill s.slots items) :=
        (List.map_congr_left fun r hr =>
          ItemResult.giveUp_of_candid (Slot.results_candid candid r hr)).trans (List.map_id _)
      show (acknowledgedBy _ (List.map _ _)).Perm _
      rw [same, results]
      exact filled
    | some d => exact ⟨candid, filled⟩

theorem ofOperations_candid (ops : List Operation) (backoff : BackoffPolicy) :
    (ofOperations ops backoff).Candid := by
  intro slot hs r hr
  obtain ⟨op, -, rfl⟩ := List.mem_map.1 hs
  cases hr

theorem ofOperations_acknowledged (ops : List Operation) (backoff : BackoffPolicy) :
    Slot.acknowledged (ofOperations ops backoff).slots = [] := by
  refine Slot.acknowledged_of_all_open (ofOperations_candid ops backoff)
    (List.all_eq_true.2 fun slot hs => ?_)
  obtain ⟨op, -, rfl⟩ := List.mem_map.1 hs
  rfl

end Submission

/-! ## Flights -/

/-- What is acknowledged of a flight. -/
def Flight.acknowledged {τ : Type} (f : Flight τ) : List Operation :=
  Slot.acknowledged f.submission.slots

/-- **An answer adds what it acknowledges,** whether the flight stays in the air or lands. -/
theorem Flight.hear_acknowledged {τ : Type} (now : Nat) {f : Flight τ} {answer : BulkAnswer}
    (hs : f.submission.Candid) (ha : answer.Fits f.submission.attempt) (hc : answer.Candid) :
    match f.hear now answer with
    | .airborne g =>
      g.submission.Candid ∧
      g.acknowledged.Perm (f.acknowledged ++ answer.acknowledged f.submission.attempt)
    | .landed landing =>
      (acknowledgedBy f.operations landing.items).Perm
        (f.acknowledged ++ answer.acknowledged f.submission.attempt) := by
  have verdict : ∃ v, f.submission.receive? answer = some v ∧
      v.Adds f.submission (answer.acknowledged f.submission.attempt) := by
    cases answer with
    | died => cases ha
    | failed failure => exact ⟨_, rfl, Submission.receiveFailure_adds hs failure⟩
    | items items =>
      have hl : items.length = f.submission.attempt.length := by simpa using congrArg List.length ha
      exact ⟨_, if_pos hl, Submission.receiveItems_adds hs hl hc⟩
  obtain ⟨v, hv, adds⟩ := verdict
  unfold hear
  rw [hv]
  cases v with
  | resend wait next => exact adds
  | finished result => exact adds

/-! ## Histories -/

namespace History

/-- The operations that were acknowledged. -/
def acknowledged (h : History) : List Operation := h.answers.flatMap fun a => a.2.acknowledged a.1

/-- The operations that the ends of their batches acknowledge. -/
def confirmed (h : History) : List Operation :=
  h.landings.flatMap fun e => acknowledgedBy e.1 e.2.items

/-- The operations that were acknowledged before their batches were given up. -/
def forgone (h : History) : List Operation := h.dropped.flatMap Slot.acknowledged

/-- The operations that were given up before they were acknowledged. -/
def missing (h : History) : List Operation := h.dropped.flatMap Slot.unacknowledged

@[simp] theorem acknowledged_append (h g : History) :
    acknowledged (h ++ g) = acknowledged h ++ acknowledged g := by
  unfold acknowledged
  rw [answers_append, List.flatMap_append]

@[simp] theorem confirmed_append (h g : History) :
    confirmed (h ++ g) = confirmed h ++ confirmed g := by
  unfold confirmed
  rw [landings_append, List.flatMap_append]

@[simp] theorem forgone_append (h g : History) : forgone (h ++ g) = forgone h ++ forgone g := by
  unfold forgone
  rw [dropped_append, List.flatMap_append]

/-- The batches that were given up had answers that give their reasons. -/
def Candid (h : History) : Prop := ∀ slots ∈ h.dropped, ∀ s ∈ slots, s.Candid

theorem Candid.nil : Candid [] := fun _ hs => by cases hs

theorem Candid.append {h g : History} (hh : h.Candid) (hg : g.Candid) : Candid (h ++ g) := by
  intro slots hs
  rw [dropped_append] at hs
  exact (List.mem_append.1 hs).elim (hh slots) (hg slots)

theorem givenUp_perm (h : History) : h.givenUp.Perm (h.forgone ++ h.missing) := by
  refine List.perm_iff_count.2 fun op => ?_
  unfold givenUp forgone missing
  rw [List.count_append]
  induction h.dropped with
  | nil => rfl
  | cons slots dropped ih =>
    have first := (Slot.operations_perm slots).count_eq op
    simp only [List.flatMap_cons, List.count_append] at first ⊢
    omega

end History

/-! ## Moves -/

namespace Channel

variable {τ : Type}

/-- What is acknowledged of the batches under way. -/
def acknowledged (c : Channel τ) : List Operation := c.flights.flatMap Flight.acknowledged

def Candid (c : Channel τ) : Prop := ∀ f ∈ c.flights, f.submission.Candid

end Channel

namespace Traffic.Move

variable {σ τ : Type} {cluster : Cluster σ τ} {t u : Traffic σ τ} {h : History}

theorem candid (hc : cluster.Candid) (aligned : cluster.Aligned) (ht : t.channel.Candid)
    (hm : Move cluster t h u) : u.channel.Candid ∧ h.Candid := by
  cases hm with
  | launch now hr =>
    refine ⟨?_, .nil⟩
    show (Channel.launch now t.channel).Candid
    unfold Channel.launch
    cases hw : t.channel.waiting with
    | none => exact ht
    | some ops =>
      intro f hf
      rcases List.mem_append.1 hf with hf | hf
      · exact ht f hf
      · cases List.mem_singleton.1 hf
        exact Submission.ofOperations_candid ops _
  | reorder hp => exact ⟨fun f hf => ht f (hp.mem_iff.1 hf), .nil⟩
  | @send f rest wait ticket s now hf hp hb =>
    refine ⟨fun g hg => ?_, .nil⟩
    rcases List.mem_cons.1 hg with rfl | hg
    · exact ht f (hf ▸ .head _)
    · exact ht g (hf ▸ .tail _ hg)
  | @resend f g rest ticket answer s now hf hp hb hg =>
    have hear := Flight.hear_acknowledged now (ht f (hf ▸ .head _)) (aligned.fits hb) (hc.answer hb)
    rw [hg] at hear
    refine ⟨fun f' hf' => ?_, fun _ hs => (by cases hs)⟩
    rcases List.mem_cons.1 hf' with rfl | hf'
    · exact hear.1
    · exact ht f' (hf ▸ .tail _ hf')
  | @land f rest ticket answer s landing now hf hp hb hl =>
    exact ⟨fun f' hf' => ht f' (hf ▸ .tail _ hf'), fun _ hs => (by cases hs)⟩
  | @dropWaiting ops hw =>
    refine ⟨ht, fun slots hs => ?_⟩
    cases List.mem_singleton.1 hs
    exact Submission.ofOperations_candid ops t.channel.backoff
  | @dropFlight f rest hf =>
    refine ⟨fun g hg => ht g (hf ▸ .tail _ hg), fun slots hs => ?_⟩
    cases List.mem_singleton.1 hs
    exact ht f (hf ▸ .head _)
  | _ => exact ⟨ht, fun _ hs => (by cases hs)⟩

/-- **No acknowledgement is lost or made up.** -/
theorem acknowledges (hc : cluster.Candid) (aligned : cluster.Aligned) (ht : t.channel.Candid)
    (hm : Move cluster t h u) :
    (t.channel.acknowledged ++ h.acknowledged).Perm
    (u.channel.acknowledged ++ (h.confirmed ++ h.forgone)) := by
  cases hm with
  | launch now hr =>
    show (_ ++ []).Perm ((Channel.launch now t.channel).acknowledged ++ [])
    unfold Channel.launch
    cases hw : t.channel.waiting with
    | none => exact .refl _
    | some ops =>
      simp [Channel.acknowledged, Flight.acknowledged, Submission.ofOperations_acknowledged]
  | @reorder fs hp => exact ((hp.flatMap_right Flight.acknowledged).symm).append_right []
  | @send f rest wait ticket s now hf hp hb =>
    unfold Channel.acknowledged
    rw [hf]
    exact .refl _
  | @resend f g rest ticket answer s now hf hp hb hg =>
    have hear := Flight.hear_acknowledged now (ht f (hf ▸ .head _)) (aligned.fits hb) (hc.answer hb)
    rw [hg] at hear
    refine List.perm_iff_count.2 fun op => ?_
    have heard := hear.2.count_eq op
    unfold Channel.acknowledged
    rw [hf]
    simp [flown, History.acknowledged, History.answers, History.confirmed, History.landings,
      History.forgone, History.dropped] at heard ⊢
    omega
  | @land f rest ticket answer s landing now hf hp hb hl =>
    have hear := Flight.hear_acknowledged now (ht f (hf ▸ .head _)) (aligned.fits hb) (hc.answer hb)
    rw [hl] at hear
    refine List.perm_iff_count.2 fun op => ?_
    have heard := hear.count_eq op
    unfold Channel.acknowledged
    rw [hf]
    simp [flown, History.acknowledged, History.answers, History.confirmed, History.landings,
      History.forgone, History.dropped] at heard ⊢
    omega
  | @dropWaiting ops hw =>
    have none := Submission.ofOperations_acknowledged ops t.channel.backoff
    show (_ ++ []).Perm (_ ++ ([] ++ (Slot.acknowledged (unsent ops) ++ [])))
    rw [show Slot.acknowledged (unsent ops) = [] from none]
    exact .refl _
  | @dropFlight f rest hf =>
    unfold Channel.acknowledged
    rw [hf]
    show ((f.acknowledged ++ rest.flatMap _) ++ []).Perm
      (rest.flatMap Flight.acknowledged ++ ([] ++ (f.acknowledged ++ [])))
    simpa using List.perm_append_comm
  | _ => exact .refl _

end Traffic.Move

/-! ## Clean ledgers -/

/-- Results without an error acknowledge every operation that they are about. -/
theorem acknowledgedBy_of_clean {ops : List Operation} {items : List ItemResult}
    (targets : items.map ItemResult.target = ops.map Operation.target)
    (clean : ∀ r ∈ items, r.error = none) :
    acknowledgedBy ops items = ops := by
  induction ops generalizing items with
  | nil => cases items <;> rfl
  | cons op ops ih =>
    cases items with
    | nil => cases targets
    | cons r items =>
      simp only [List.map_cons, List.cons.injEq] at targets
      unfold acknowledgedBy
      rw [clean r (.head _), ih targets.2 fun q hq => clean q (.tail _ hq)]
      rfl

theorem Landing.acknowledges {ops : List Operation} {l : Landing} (fits : l.Fits ops)
    (clean : l.fails = false) :
    acknowledgedBy ops l.items = ops := by
  rcases l with ⟨items | failure⟩ | _
  · refine acknowledgedBy_of_clean fits fun r hr => ?_
    simp only [fails, Bool.or_eq_false_iff, List.any_eq_false] at clean
    simpa [ItemResult.isFailed] using clean.2 r hr
  · cases clean
  · cases fits

namespace History

variable {h : History} {t : RunTally}

/-- **Under a ledger without failures** what was taken was acknowledged, or was given up before. -/
theorem acknowledged_perm (hs : h.Settles t) (booked : h.landings.map Prod.snd = h.booked)
    (sound : h.Sound) (acknowledged : h.acknowledged.Perm (h.confirmed ++ h.forgone))
    (clean : t.failed = false) :
    (h.acknowledged ++ h.missing).Perm h.taken := by
  have confirmed : h.confirmed = h.ended := by
    unfold History.confirmed ended
    rw [List.flatMap_def, List.flatMap_def]
    refine congrArg _ (List.map_congr_left fun e he => ?_)
    exact Landing.acknowledges (sound.landings e he)
      (hs.fails clean e.2 (booked ▸ List.mem_map_of_mem he))
  refine List.perm_iff_count.2 fun op => ?_
  have taken := hs.conserved.count_eq op
  have ended := h.ended_perm.count_eq op
  have givenUp := h.givenUp_perm.count_eq op
  have told := acknowledged.count_eq op
  rw [hs.lost booked clean] at taken ended
  rw [confirmed] at told
  simp only [List.count_append, List.count_nil] at taken ended givenUp told ⊢
  omega

/-- A batch is given up before all of it is acknowledged. -/
theorem missing_eq_nil (sound : h.Sound) (candid : h.Candid) : h.missing = [] ↔ h.dropped = [] := by
  unfold missing
  rw [List.flatMap_eq_nil_iff]
  constructor
  · intro none
    refine List.eq_nil_iff_forall_not_mem.2 fun slots hs => ?_
    exact Slot.unacknowledged_ne_nil (candid slots hs) (sound.dropped slots hs) (none slots hs)
  · intro none slots hs
    rw [none] at hs
    cases hs

end History

end Reindex
