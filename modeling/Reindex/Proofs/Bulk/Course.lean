import Reindex.Bulk.Channel

/-!
# Courses of bulk traffic

What an open channel does, taken apart into moves: an operation is taken, the buffer is cut, a batch
is let go, a flight is sent, answered or lands, an end is booked, a batch is given up.
`Traffic.Move` allows the flights to go on in any order and at any time, so that what holds of all
courses holds whatever the latencies and the scheduling are. A move leaves a trace in the history.

Main statement: `Course.invariant`, by which what every move keeps holds at the end of every course.
-/

namespace Reindex

/-! ## Histories -/

/-- What can be told of a move. -/
inductive BulkEvent where
  /-- An operation was taken into the buffer. -/
  | taken (op : Operation)
  /-- A bulk call with these operations was answered. -/
  | answered (ops : List Operation) (answer : BulkAnswer)
  /-- A batch of these operations came to its end. -/
  | landed (ops : List Operation) (landing : Landing)
  /-- An end was entered into the ledger. -/
  | booked (landing : Landing)
  /-- A batch was given up, with the answers that it had so far. -/
  | dropped (slots : List Slot)
  /-- An end was thrown away before it was booked. -/
  | discarded (landing : Landing)
deriving DecidableEq, Repr

/-- What happened, oldest first. -/
abbrev History := List BulkEvent

namespace History

/-- The operations that were taken. -/
def taken (h : History) : List Operation := h.filterMap fun
  | .taken op => some op
  | _ => none

/-- The bulk calls that were answered. -/
def answers (h : History) : List (List Operation × BulkAnswer) := h.filterMap fun
  | .answered ops answer => some (ops, answer)
  | _ => none

/-- The batches that ended. -/
def landings (h : History) : List (List Operation × Landing) := h.filterMap fun
  | .landed ops landing => some (ops, landing)
  | _ => none

/-- The ends that are in the ledger. -/
def booked (h : History) : List Landing := h.filterMap fun
  | .booked landing => some landing
  | _ => none

/-- The batches that were given up. -/
def dropped (h : History) : List (List Slot) := h.filterMap fun
  | .dropped slots => some slots
  | _ => none

/-- The ends that were thrown away. -/
def discarded (h : History) : List Landing := h.filterMap fun
  | .discarded landing => some landing
  | _ => none

@[simp] theorem taken_append (h g : History) : taken (h ++ g) = taken h ++ taken g :=
  List.filterMap_append
@[simp] theorem answers_append (h g : History) : answers (h ++ g) = answers h ++ answers g :=
  List.filterMap_append
@[simp] theorem landings_append (h g : History) : landings (h ++ g) = landings h ++ landings g :=
  List.filterMap_append
@[simp] theorem booked_append (h g : History) : booked (h ++ g) = booked h ++ booked g :=
  List.filterMap_append
@[simp] theorem dropped_append (h g : History) : dropped (h ++ g) = dropped h ++ dropped g :=
  List.filterMap_append
@[simp] theorem discarded_append (h g : History) :
    discarded (h ++ g) = discarded h ++ discarded g :=
  List.filterMap_append

/-- The bookings of some ends are told as such and as nothing else. -/
theorem of_bookings (ls : List Landing) :
    taken (ls.map .booked) = [] ∧ answers (ls.map .booked) = [] ∧ landings (ls.map .booked) = [] ∧
      booked (ls.map .booked) = ls ∧ dropped (ls.map .booked) = [] := by
  induction ls with
  | nil => exact ⟨rfl, rfl, rfl, rfl, rfl⟩
  | cons l ls ih =>
    obtain ⟨h1, h2, h3, h4, h5⟩ := ih
    exact ⟨h1, h2, h3, congrArg (l :: ·) h4, h5⟩

/-- So are the drops of some batches. -/
theorem of_drops (bs : List (List Slot)) :
    taken (bs.map .dropped) = [] ∧ answers (bs.map .dropped) = [] ∧
    landings (bs.map .dropped) = [] ∧
      booked (bs.map .dropped) = [] ∧ dropped (bs.map .dropped) = bs := by
  induction bs with
  | nil => exact ⟨rfl, rfl, rfl, rfl, rfl⟩
  | cons b bs ih =>
    obtain ⟨h1, h2, h3, h4, h5⟩ := ih
    exact ⟨h1, h2, h3, h4, congrArg (b :: ·) h5⟩

end History

/-! ## Courses -/

/-- Moves one after another, with the history that they leave. -/
inductive Course {α ε : Type} (move : α → List ε → α → Prop) : α → List ε → α → Prop
  | refl (a : α) : Course move a [] a
  | tail {a b c : α} {h g : List ε} : Course move a h b → move b g c → Course move a (h ++ g) c

namespace Course

variable {α ε : Type} {move : α → List ε → α → Prop} {a b c : α} {h g : List ε}

theorem single (hm : move a h b) : Course move a h b := by
  simpa using Course.tail (.refl a) hm

theorem trans (h₁ : Course move a h b) (h₂ : Course move b g c) : Course move a (h ++ g) c := by
  induction h₂ with
  | refl => simpa using h₁
  | tail _ hm ih => simpa using ih.tail hm

/-- A silent move behind. -/
theorem silent (h₁ : Course move a h b) (hm : move b [] c) : Course move a h c := by
  simpa using h₁.tail hm

/-- A silent move in front. -/
theorem head (hm : move a [] b) (h₂ : Course move b g c) : Course move a g c := by
  simpa using (single hm).trans h₂

/-- What holds at first and is kept by every move holds in the end. -/
theorem invariant {I : List ε → α → Prop} (hc : Course move a h b) (h₀ : I [] a)
    (step : ∀ {h b g c}, I h b → move b g c → I (h ++ g) c) : I h b := by
  induction hc with
  | refl => exact h₀
  | tail _ hm ih => exact step ih hm

end Course

/-! ## Moves of a channel -/

/-- The operations of a flight. -/
def Flight.operations {τ : Type} (f : Flight τ) : List Operation := f.submission.slots.map (·.op)

/-- A batch that was not sent yet, as slots. -/
def unsent (ops : List Operation) : List Slot := ops.map (⟨·, none⟩)

namespace Channel

variable {τ : Type}

/-- The operations that a channel holds and that have not landed. -/
def held (c : Channel τ) : List Operation :=
  c.buffer.toList ++ c.waiting.getD [] ++ c.flights.flatMap Flight.operations

/-- A channel with nothing in it. -/
structure Empty (c : Channel τ) : Prop where
  buffer : c.buffer = #[]
  waiting : c.waiting = none
  flights : c.flights = []
  landed : c.landed = []

theorem Empty.held {c : Channel τ} (h : c.Empty) : c.held = [] := by
  simp [Channel.held, h.buffer, h.waiting, h.flights]

end Channel

namespace Traffic

variable {σ τ : Type}

/-- The cluster moved on, other flights are in the air, and some landed. -/
def flown (t : Traffic σ τ) (s : σ) (fs : List (Flight τ)) (ls : List Landing) : Traffic σ τ :=
  { t with cluster := s, channel := { t.channel with flights := fs, landed := t.channel.landed ++ ls } }

/-- One move of an open channel and its flights, with what can be told of it. What ended is kept
until it is booked. -/
inductive Move (cluster : Cluster σ τ) : Traffic σ τ → History → Traffic σ τ → Prop
  | wait (t : Traffic σ τ) (now allowance : Nat) : Move cluster t [] { t with now, allowance }
  | take (t : Traffic σ τ) (op : Operation) : Move cluster t [.taken op] (t.onChannel (·.push op))
  | cut {t : Traffic σ τ} (hw : t.channel.waiting = none) (hb : t.channel.buffer.isEmpty = false) :
      Move cluster t [] (t.onChannel Channel.cut)
  | launch {t : Traffic σ τ} (now : Nat) (hr : t.channel.hasRoom) :
      Move cluster t [] (t.onChannel (Channel.launch now))
  | reorder {t : Traffic σ τ} {fs : List (Flight τ)} (h : fs.Perm t.channel.flights) :
      Move cluster t [] (t.flown t.cluster fs [])
  | send {t : Traffic σ τ} {f : Flight τ} {rest : List (Flight τ)} {wait : Nat} {ticket : τ} {s : σ}
      (now : Nat) (hf : t.channel.flights = f :: rest) (hp : f.phase = .sending)
      (hb : cluster.beginBulk now t.channel.index f.submission.attempt t.cluster =
        ((wait, ticket), s)) :
      Move cluster t []
        (t.flown s ({ f with phase := .awaiting ticket, due := now + min wait longestWait } :: rest)
          [])
  | resend {t : Traffic σ τ} {f g : Flight τ} {rest : List (Flight τ)} {ticket : τ}
      {answer : BulkAnswer} {s : σ}
      (now : Nat) (hf : t.channel.flights = f :: rest) (hp : f.phase = .awaiting ticket)
      (ha : cluster.finishBulk ticket t.channel.index f.submission.attempt t.cluster = (answer, s))
      (hg : f.hear now answer = .airborne g) :
      Move cluster t [.answered f.submission.attempt answer] (t.flown s (g :: rest) [])
  | land {t : Traffic σ τ} {f : Flight τ} {rest : List (Flight τ)} {ticket : τ}
      {answer : BulkAnswer} {s : σ} {landing : Landing} (now : Nat)
      (hf : t.channel.flights = f :: rest) (hp : f.phase = .awaiting ticket)
      (ha : cluster.finishBulk ticket t.channel.index f.submission.attempt t.cluster = (answer, s))
      (hl : f.hear now answer = .landed landing) :
      Move cluster t [.answered f.submission.attempt answer, .landed f.operations landing]
        (t.flown s rest [landing])
  | book {t : Traffic σ τ} {landing : Landing} {rest : List Landing}
      (hl : t.channel.landed = landing :: rest) :
      Move cluster t [.booked landing]
        (t.onChannel fun c => { c with tally := c.tally.settle landing, landed := rest })
  | dropWaiting {t : Traffic σ τ} {ops : List Operation} (hw : t.channel.waiting = some ops) :
      Move cluster t [.dropped (unsent ops)] (t.onChannel fun c => { c with waiting := none })
  | dropFlight {t : Traffic σ τ} {f : Flight τ} {rest : List (Flight τ)}
      (hf : t.channel.flights = f :: rest) :
      Move cluster t [.dropped f.submission.slots] (t.onChannel fun c => { c with flights := rest })

end Traffic

end Reindex
