import Reindex.Proofs.Bulk.Landing

/-!
# Rounds of a batch

A batch goes out in rounds. A round is one bulk call with the places, in the batch, of the
operations that it carried. The slots of a batch are a function of its rounds: each place has its
latest answer, and what goes out next are the places that have none or were pushed back.

Main statements: `Slot.fill_ofAnswers`, by which results settle the places that their round carried,
`Round.Underway.receive`, one more round, and `Flight.rounds_of_land`, by induction on the waits
that are left.
-/

namespace Reindex

variable {σ τ : Type}

/-- A round of a batch: the places of the operations that its call carried, and the answer to it. -/
structure Round where
  places : List Nat
  answer : BulkAnswer
deriving DecidableEq, Repr

namespace Round

/-- The call of a round of a batch of these operations. -/
def call (ops : List Operation) (r : Round) : BulkCall := ⟨r.places.filterMap (ops[·]?), r.answer⟩

/-- What a round says of the operation in a place. -/
def result? (r : Round) (place : Nat) : Option ItemResult :=
  match r.answer with
  | .items results => (r.places.zip results).lookup place
  | _ => none

/-- The latest answer to the operation in a place. -/
def latest? (rounds : List Round) (place : Nat) : Option ItemResult :=
  (rounds.filterMap (·.result? place)).getLast?

theorem latest?_nil (place : Nat) : latest? [] place = none := rfl

theorem latest?_append (rounds : List Round) (r : Round) (place : Nat) :
    latest? (rounds ++ [r]) place = (r.result? place).or (latest? rounds place) := by
  unfold latest?
  rw [List.filterMap_append, List.getLast?_append]
  cases h : r.result? place <;> simp [h]

end Round

namespace Slot

/-- The operations of a batch, from a place on, with the answers to them. -/
def ofAnswers (answer : Nat → Option ItemResult) : Nat → List Operation → List Slot
  | _, [] => []
  | place, op :: ops => ⟨op, answer place⟩ :: ofAnswers answer (place + 1) ops

/-- An operation with this answer is to be sent. -/
def isDue (answer : Option ItemResult) : Bool := (answer.map ItemResult.isRejected).getD true

/-- The places, among so many from a place on, whose operations are to be sent. -/
def duePlaces (answer : Nat → Option ItemResult) (place count : Nat) : List Nat :=
  (List.range' place count).filter fun p => isDue (answer p)

theorem duePlaces_succ (answer : Nat → Option ItemResult) (place count : Nat) :
    duePlaces answer place (count + 1) =
      if isDue (answer place) then place :: duePlaces answer (place + 1) count else duePlaces answer
        (place + 1) count := by
  unfold duePlaces
  rw [List.range'_succ, List.filter_cons]

theorem le_of_mem_duePlaces {answer : Nat → Option ItemResult} {place count p : Nat}
    (h : p ∈ duePlaces answer place count) : place ≤ p := by
  unfold duePlaces at h
  simp at h
  omega

theorem lookup_duePlaces_of_lt {answer : Nat → Option ItemResult} {place count p : Nat}
    (items : List ItemResult) (h : p < place) :
    ((duePlaces answer place count).zip items).lookup p = none := by
  rw [List.lookup_eq_none_iff]
  intro e he
  have := le_of_mem_duePlaces (List.of_mem_zip he).1
  simp
  omega

theorem ofAnswers_congr {answer answer' : Nat → Option ItemResult} {place : Nat}
    (ops : List Operation) (h : ∀ p, place ≤ p → answer p = answer' p) :
    ofAnswers answer place ops = ofAnswers answer' place ops := by
  induction ops generalizing place with
  | nil => rfl
  | cons op ops ih =>
    unfold ofAnswers
    rw [h place (Nat.le_refl _), ih fun p hp => h p (by omega)]

/-- **Results settle the places that they are for,** in order. -/
theorem fill_ofAnswers (answer : Nat → Option ItemResult) (place : Nat) (ops : List Operation)
    (items : List ItemResult) :
    fill (ofAnswers answer place ops) items =
      ofAnswers (fun p => (((duePlaces answer place ops.length).zip items).lookup p).or (answer p))
        place ops := by
  induction ops generalizing place items with
  | nil => rfl
  | cons op ops ih =>
    rw [List.length_cons, duePlaces_succ]
    unfold ofAnswers fill
    by_cases due : isDue (answer place)
    · rw [if_pos (show isOpen ⟨op, answer place⟩ = true from due), if_pos due]
      cases items with
      | nil => simp
      | cons r items =>
        dsimp only
        rw [ih]
        simp only [List.zip_cons_cons, List.lookup_cons_self, Option.some_or]
        congr 1
        refine ofAnswers_congr ops fun p hp => ?_
        have later : (p == place) = false := by simp; omega
        rw [List.lookup_cons, later]
    · rw [if_neg (show ¬ isOpen ⟨op, answer place⟩ = true from due), if_neg due, ih,
        lookup_duePlaces_of_lt items (Nat.lt_succ_self place)]
      rfl

/-- What is to be sent are the operations in the due places. -/
theorem due_ofAnswers (answer : Nat → Option ItemResult) (place : Nat) {ops all : List Operation}
    (h : all.drop place = ops) :
    ((ofAnswers answer place ops).filter isOpen).map
      (·.op) = (duePlaces answer place ops.length).filterMap (all[·]?) := by
  induction ops generalizing place with
  | nil => rfl
  | cons op ops ih =>
    have here : all[place]? = some op := by rw [← List.head?_drop, h]; rfl
    have rest : all.drop (place + 1) = ops := by rw [← List.drop_drop, h]; rfl
    rw [List.length_cons, duePlaces_succ]
    unfold ofAnswers
    rw [List.filter_cons]
    by_cases due : isDue (answer place)
    · rw [if_pos (show isOpen ⟨op, answer place⟩ = true from due), if_pos due,
        List.filterMap_cons, here]
      exact congrArg (op :: ·) (ih (place + 1) rest)
    · rw [if_neg (show ¬ isOpen ⟨op, answer place⟩ = true from due), if_neg due]
      exact ih (place + 1) rest

/-- Where every operation has an answer there is one result for each, in order. -/
theorem results_ofAnswers {answer : Nat → Option ItemResult} {place : Nat} {ops : List Operation}
    (h : ∀ p ∈ List.range' place ops.length, (answer p).isSome = true) :
    (results (ofAnswers answer place ops)).map some = (List.range' place ops.length).map
      answer := by
  induction ops generalizing place with
  | nil => rfl
  | cons op ops ih =>
    rw [List.length_cons, List.range'_succ] at h ⊢
    obtain ⟨r, hr⟩ := Option.isSome_iff_exists.1 (h place (.head _))
    have rest := ih fun p hp => h p (.tail _ hp)
    unfold results at rest ⊢
    unfold ofAnswers
    rw [List.filterMap_cons_some (show (⟨op, answer place⟩ : Slot).answer = some r from hr),
      List.map_cons, List.map_cons, rest, hr]

/-- A refusal is an answer to what is to be sent. -/
theorem refuseOpen_ofAnswers (reason : String) (answer : Nat → Option ItemResult) (place : Nat)
    {ops all : List Operation} (h : all.drop place = ops) :
    refuseOpen reason (ofAnswers answer place ops) =
      ofAnswers (fun p => if isDue (answer p) then all[p]?.map (.refused · 0 reason) else answer p)
        place ops := by
  induction ops generalizing place with
  | nil => rfl
  | cons op ops ih =>
    have here : all[place]? = some op := by rw [← List.head?_drop, h]; rfl
    have rest : all.drop (place + 1) = ops := by rw [← List.drop_drop, h]; rfl
    have tail := ih (place + 1) rest
    unfold refuseOpen at tail ⊢
    unfold ofAnswers
    rw [List.map_cons, tail, here]
    by_cases due : isDue (answer place)
    · rw [if_pos (show isOpen ⟨op, answer place⟩ = true from due), if_pos due]
      rfl
    · rw [if_neg (show ¬ isOpen ⟨op, answer place⟩ = true from due), if_neg due]

theorem all_ofAnswers (answer : Nat → Option ItemResult) (place : Nat) (ops : List Operation)
    (b : Bool) :
    (ofAnswers answer place ops).all (fun s => s.isOpen == b) = true ↔
      ∀ p ∈ List.range' place ops.length, isDue (answer p) = b := by
  induction ops generalizing place with
  | nil => simp [ofAnswers]
  | cons op ops ih =>
    unfold ofAnswers
    rw [List.length_cons, List.range'_succ, List.all_cons, Bool.and_eq_true, ih,
      List.forall_mem_cons, beq_iff_eq]
    exact Iff.rfl

end Slot

namespace Round

/-- The places whose operations are to be sent after some rounds. -/
def due (ops : List Operation) (rounds : List Round) : List Nat :=
  Slot.duePlaces (latest? rounds) 0 ops.length

theorem mem_due {ops : List Operation} {rounds : List Round} {place : Nat} :
    place ∈ due ops rounds ↔ place < ops.length ∧ Slot.isDue (latest? rounds place) = true := by
  simp [due, Slot.duePlaces]

/-- A round after which there may be another. -/
def Repeats (r : Round) : Prop :=
  match r.answer with
  | .items results => results.length = r.places.length
  | .failed failure => failure.retryable = true
  | .died => False

/-- Each round carries what is to be sent after those before it. -/
def Placed (ops : List Operation) (rounds : List Round) : Prop :=
  ∀ before r after, rounds = before ++ r :: after → r.places = due ops before

theorem Placed.append {ops : List Operation} {rounds : List Round} {r : Round}
    (h : Placed ops rounds) (hr : r.places = due ops rounds) : Placed ops (rounds ++ [r]) := by
  intro before q after hq
  rcases List.eq_nil_or_concat after with rfl | ⟨init, last, rfl⟩
  · obtain ⟨rfl, last⟩ := List.append_inj' hq rfl
    cases last
    exact hr
  · rw [List.concat_eq_append, ← List.cons_append, ← List.append_assoc] at hq
    exact h before q init (List.append_inj' hq rfl).1

/-- A batch that is to be sent again after some rounds. -/
structure Underway (ops : List Operation) (retries : Nat) (rounds : List Round) (s : Submission) :
    Prop where
  slots : s.slots = Slot.ofAnswers (latest? rounds) 0 ops
  waits : rounds.length + s.delays.remaining = retries
  placed : Placed ops rounds
  repeats : ∀ r ∈ rounds, r.Repeats

namespace Underway

variable {ops : List Operation} {retries : Nat} {rounds : List Round} {s next : Submission}

theorem ofOperations (ops : List Operation) (backoff : BackoffPolicy) :
    Underway ops backoff.maxRetries [] (.ofOperations ops backoff) where
  slots := by
    have fresh (place : Nat) : ops.map (⟨·, none⟩) = Slot.ofAnswers (latest? []) place ops := by
      induction ops generalizing place with
      | nil => rfl
      | cons op ops ih => exact congrArg (_ :: ·) (ih (place + 1))
    exact fresh 0
  waits := Nat.zero_add _
  placed _ _ _ h := by simp at h
  repeats r hr := by cases hr

/-- What goes out are the operations in the due places, in order. -/
theorem attempt (hu : Underway ops retries rounds s) :
    s.attempt = (due ops rounds).filterMap (ops[·]?) := by
  unfold Submission.attempt
  rw [hu.slots]
  exact Slot.due_ofAnswers _ 0 List.drop_zero

theorem length_attempt (hu : Underway ops retries rounds s) :
    s.attempt.length = (due ops rounds).length := by
  have there : ∀ p ∈ due ops rounds, (ops[p]?).isSome = true := fun p hp => by
    simpa using (mem_due.1 hp).1
  rw [hu.attempt]
  generalize due ops rounds = places at there
  induction places with
  | nil => rfl
  | cons p places ih =>
    obtain ⟨op, hop⟩ := Option.isSome_iff_exists.1 (there p (.head _))
    rw [List.filterMap_cons, hop]
    exact congrArg (· + 1) (ih fun q hq => there q (.tail _ hq))

/-- The slots behind results for what went out. -/
theorem fill (hu : Underway ops retries rounds s) (items : List ItemResult) :
    Slot.fill s.slots items = Slot.ofAnswers (latest? (rounds ++ [⟨due ops rounds, .items items⟩]))
      0 ops := by
  rw [hu.slots, Slot.fill_ofAnswers]
  refine Slot.ofAnswers_congr ops fun p _ => ?_
  rw [latest?_append]
  rfl

/-- **A batch that goes out again** is on its way after one more round. -/
theorem receive (hu : Underway ops retries rounds s) {answer : BulkAnswer} {wait : Nat}
    (h : s.receive? answer = some (.resend wait next)) :
    Underway ops retries (rounds ++ [⟨due ops rounds, answer⟩]) next := by
  have waits := hu.waits
  rw [Submission.remaining_of_receive h] at waits
  have behind : next.slots = Slot.ofAnswers (latest? (rounds ++ [⟨due ops rounds, answer⟩])) 0 ops ∧
      Repeats ⟨due ops rounds, answer⟩ := by
    cases answer with
    | died => cases h
    | failed failure =>
      simp only [Submission.receive?, Submission.receiveFailure, Option.some.injEq] at h
      split at h
      · split at h <;> cases h
        refine ⟨hu.slots.trans (Slot.ofAnswers_congr ops fun p _ => ?_), ‹_›⟩
        rw [latest?_append]
        rfl
      · cases h
    | items items =>
      simp only [Submission.receive?] at h
      split at h
      · rename_i length
        simp only [Submission.receiveItems, Option.some.injEq] at h
        split at h
        · cases h
        · split at h <;> cases h
          exact ⟨hu.fill items, length.trans hu.length_attempt⟩
      · cases h
  refine ⟨behind.1, ?_, hu.placed.append rfl, fun r hr => ?_⟩
  · rw [List.length_append, List.length_singleton]
    omega
  · rcases List.mem_append.1 hr with hr | hr
    · exact hu.repeats r hr
    · cases List.mem_singleton.1 hr
      exact behind.2

end Underway

/-- A batch that came to its end with a last round. -/
def Ended (ops : List Operation) (retries : Nat) (before : List Round) (r : Round)
    (landing : Landing) : Prop :=
  ∃ s, Underway ops retries before s ∧ r.places = due ops before ∧
    match s.receive? r.answer with
    | none => landing = .died
    | some (.finished result) => landing = .reported result
    | some (.resend _ _) => False

end Round

/-- **A flight lands after rounds,** and these are the calls that the cluster answered. -/
theorem Flight.rounds_of_land (cluster : Cluster σ τ) (index : String) {ops : List Operation}
    {retries : Nat} {rounds : List Round} {f : Flight τ} {s : Logged σ} (hp : f.phase = .sending)
    (hu : Round.Underway ops retries rounds f.submission)
    (hs : s.calls = rounds.map (Round.call ops)) :
    ∃ before r, (f.land cluster.logged index s).2.calls = (before ++ [r]).map (Round.call ops) ∧
      Round.Ended ops retries before r (f.land cluster.logged index s).1 := by
  -- each round that is not the last uses up a wait
  induction hr : f.submission.delays.remaining using Nat.strongRecOn generalizing rounds f s with
  | ind remaining ih =>
    let bulk := cluster.bulk f.due index f.submission.attempt s.state
    let last : Round := ⟨Round.due ops rounds, bulk.1⟩
    have sent : cluster.logged.bulk f.due index f.submission.attempt s =
        (bulk.1, ⟨bulk.2, (rounds ++ [last]).map (Round.call ops)⟩) := by
      rw [List.map_append, ← hs]
      exact congrArg (fun sent => (bulk.1, (⟨bulk.2, s.calls ++ [⟨sent, bulk.1⟩]⟩ : Logged σ)))
        hu.attempt
    have round := land_round hp sent
    cases hv : f.submission.receive? bulk.1 with
    | none =>
      rw [hv] at round
      rw [round]
      exact ⟨rounds, last, rfl, f.submission, hu, rfl, by rw [hv]⟩
    | some v =>
      rw [hv] at round
      cases v with
      | finished result =>
        rw [round]
        exact ⟨rounds, last, rfl, f.submission, hu, rfl, by rw [hv]⟩
      | resend wait next =>
        obtain ⟨due, round⟩ := round
        have fewer := Submission.remaining_of_receive hv
        rw [round]
        exact ih next.delays.remaining (by omega) hp (hu.receive hv) rfl rfl

end Reindex
