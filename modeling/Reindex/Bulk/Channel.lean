import Reindex.Bulk.Flight
import Reindex.Tuning

/-!
# The bulk channel

Operations are gathered in a buffer. When a limit is reached the buffer becomes a batch, which waits
until fewer batches are under way than may be, and is then let go. With no concurrent batches
allowed each batch is sent and booked before the next operation is taken.

The writer and the batches under way take turns. The writer goes on until it has to wait or its
allowance is used up; then batches that are due are run, in the order in which they came to be
waiting, but not more than `turnFlights` of them before the writer is looked at again. Time passes
only where the writer waits: for room, or for the end of all batches when the channel is closed.
`Traffic.await` is that wait.

Main statement: `Traffic.turn_weight` says that a turn of what is due leaves fewer steps, so that
every wait ends.
-/

namespace Reindex

/-- An open channel (`BulkChannel`). An operation added to it is in the buffer, in the batch that
waits for room, in a flight, or in a landing that was not booked yet; after that it is in the
tally. -/
structure Channel (τ : Type) where
  index : String
  limits : BatchLimits
  backoff : BackoffPolicy
  /-- The ledger of the run. -/
  tally : RunTally
  buffer : Array Operation := #[]
  bufferedBytes : Nat := 0
  /-- How many batches were cut. -/
  dispatched : Nat := 0
  /-- The batch that waits for room. -/
  waiting : Option (List Operation) := none
  /-- The batches under way, in the order in which they came to be waiting. -/
  flights : List (Flight τ) := []
  /-- What landed since the ledger was last brought up to date, oldest first. -/
  landed : List Landing := []

namespace Channel

variable {τ : Type}

/-- A channel into an index that carries on a ledger (`BulkChannel.open`). -/
def ofTally (index : String) (limits : BatchLimits) (backoff : BackoffPolicy) (tally : RunTally) :
    Channel τ :=
  { index, limits, backoff, tally }

/-- An operation in the buffer. -/
def push (c : Channel τ) (op : Operation) : Channel τ :=
  { c with buffer := c.buffer.push op, bufferedBytes := c.bufferedBytes + op.estimatedBytes }

/-- The buffer makes a batch. -/
def isFull (c : Channel τ) : Bool := c.limits.reached c.buffer.size c.bufferedBytes

/-- Every batch is finished before the writer goes on. -/
def isInline (c : Channel τ) : Bool := c.limits.concurrent == 0

/-- The first so many landings in the ledger. -/
def book (count : Nat) (c : Channel τ) : Channel τ :=
  { c with tally := (c.landed.take count).foldl RunTally.settle c.tally, landed := c.landed.drop count }

/-- All landings in the ledger. -/
def bookLanded (c : Channel τ) : Channel τ :=
  { c with tally := c.landed.foldl RunTally.settle c.tally, landed := [] }

/-- The buffer as the next batch. -/
def cut (c : Channel τ) : Channel τ :=
  { c with
    waiting := some c.buffer.toList
    dispatched := c.dispatched + 1
    buffer := #[]
    bufferedBytes := 0 }

/-- One more batch may be under way. -/
def hasRoom (c : Channel τ) : Bool := decide (c.flights.length < max c.limits.concurrent 1)

/-- Nothing is under way. -/
def isIdle (c : Channel τ) : Bool := c.flights.isEmpty

/-- The waiting batch is let go. -/
def launch (now : Nat) (c : Channel τ) : Channel τ :=
  match c.waiting with
  | none => c
  | some ops =>
    let flight : Flight τ :=
      { batch := c.dispatched, submission := .ofOperations ops c.backoff, phase := .sending,
        due := now }
    { c with waiting := none, flights := c.flights ++ [flight] }

/-- What is under way is given up. -/
def dropFlights (c : Channel τ) : Channel τ := { c with flights := [] }

/-- The earliest time at which a flight is due. -/
def nextDue? (c : Channel τ) : Option Nat := (c.flights.map (·.due)).min?

end Channel

/-- How many calls and bookings the writer gets done before the batches under way have a turn. -/
def turnAllowance : Nat := 128

/-- How many batches are run before the writer is looked at again. -/
def turnFlights : Nat := 61

/-- A channel with the clock and the cluster that it works against. -/
structure Traffic (σ τ : Type) where
  channel : Channel τ
  /-- Milliseconds. -/
  now : Nat
  cluster : σ
  /-- What is left of the writer's turn. -/
  allowance : Nat := turnAllowance

/-- What became of some flights: those not run, those in the air again, and what landed. -/
structure Movements (τ : Type) where
  idle : List (Flight τ) := []
  again : List (Flight τ) := []
  landed : List Landing := []

/-- Runs the first so many of the flights that are due at a time, one after another. -/
def Flight.runSome {σ τ : Type} (cluster : Cluster σ τ) (index : String) (now : Nat) :
    Nat → List (Flight τ) → σ → Movements τ × σ
  | _, [], s => ({}, s)
  | count, f :: rest, s =>
    if f.due ≤ now ∧ 0 < count then
      match f.run cluster index now s with
      | (.landed landing, s) =>
        let moved := runSome cluster index now (count - 1) rest s
        ({ moved.1 with landed := landing :: moved.1.landed }, moved.2)
      | (.airborne g, s) =>
        let moved := runSome cluster index now (count - 1) rest s
        ({ moved.1 with again := g :: moved.1.again }, moved.2)
    else
      let moved := runSome cluster index now count rest s
      ({ moved.1 with idle := f :: moved.1.idle }, moved.2)

/-- A bound on how often flights may still be run. -/
def Flight.totalWeight {τ : Type} : List (Flight τ) → Nat
  | [] => 0
  | f :: fs => f.weight + totalWeight fs

theorem Flight.totalWeight_append {τ : Type} (fs gs : List (Flight τ)) :
    totalWeight (fs ++ gs) = totalWeight fs + totalWeight gs := by
  induction fs with
  | nil => simp [totalWeight]
  | cons f fs ih => rw [List.cons_append, totalWeight, totalWeight, ih, Nat.add_assoc]

theorem Flight.weight_pos {τ : Type} (f : Flight τ) : 0 < f.weight := by
  simp only [Flight.weight]; split <;> omega

theorem Flight.totalWeight_runSome_le {σ τ : Type} (cluster : Cluster σ τ) (index : String)
    (now count : Nat) (fs : List (Flight τ)) (s : σ) :
    totalWeight (runSome cluster index now count fs s).1.idle + totalWeight
      (runSome cluster index now count fs s).1.again
      ≤ totalWeight fs := by
  induction fs generalizing count s with
  | nil => simp [runSome, totalWeight]
  | cons f rest ih =>
    simp only [runSome]
    split
    · split
      · rename_i landing s' h
        have := ih (count - 1) s'
        simp only [totalWeight] at this ⊢
        omega
      · rename_i g s' h
        have := ih (count - 1) s'
        have hg := (run_airborne (congrArg Prod.fst h)).1
        simp only [totalWeight] at this ⊢
        omega
    · have := ih count s
      simp only [totalWeight] at this ⊢
      omega

theorem Flight.totalWeight_runSome_lt {σ τ : Type} (cluster : Cluster σ τ) (index : String)
    (now count : Nat) (hcount : 0 < count) {fs : List (Flight τ)} (s : σ)
    (hdue : ∃ f ∈ fs, f.due ≤ now) :
    totalWeight (runSome cluster index now count fs s).1.idle + totalWeight
      (runSome cluster index now count fs s).1.again
      < totalWeight fs := by
  induction fs generalizing s with
  | nil => simp at hdue
  | cons f rest ih =>
    simp only [runSome]
    split
    · split
      · rename_i landing s' h
        have := totalWeight_runSome_le cluster index now (count - 1) rest s'
        have := f.weight_pos
        simp only [totalWeight] at *
        omega
      · rename_i g s' h
        have := totalWeight_runSome_le cluster index now (count - 1) rest s'
        have hg := (run_airborne (congrArg Prod.fst h)).1
        simp only [totalWeight] at *
        omega
    · rename_i hf
      have hrest : ∃ f ∈ rest, f.due ≤ now := by
        obtain ⟨g, hg, hgd⟩ := hdue
        rcases List.mem_cons.1 hg with rfl | hg
        · exact absurd ⟨hgd, hcount⟩ hf
        · exact ⟨g, hg, hgd⟩
      have := ih s hrest
      simp only [totalWeight] at this ⊢
      omega

namespace Traffic

variable {σ τ : Type}

/-- The writer does something to its channel. -/
def onChannel (t : Traffic σ τ) (f : Channel τ → Channel τ) : Traffic σ τ :=
  { t with channel := f t.channel }

/-- A turn of the flights that are due. Those that are in the air again come after the others. The
writer's next turn begins. -/
def turn (cluster : Cluster σ τ) (t : Traffic σ τ) : Traffic σ τ :=
  let moved := Flight.runSome cluster t.channel.index t.now turnFlights t.channel.flights t.cluster
  { t with
    cluster := moved.2
    allowance := turnAllowance
    channel := { t.channel with
      flights := moved.1.idle ++ moved.1.again
      landed := t.channel.landed ++ moved.1.landed } }

theorem turn_weight (cluster : Cluster σ τ) (t : Traffic σ τ) {due : Nat}
    (h : t.channel.nextDue? = some due) (hd : due ≤ t.now) :
    Flight.totalWeight (t.turn cluster).channel.flights < Flight.totalWeight t.channel.flights := by
  have hmem := List.min?_mem h
  obtain ⟨f, hf, rfl⟩ := List.mem_map.1 hmem
  have := Flight.totalWeight_runSome_lt cluster t.channel.index t.now turnFlights
    (by decide) t.cluster
    ⟨f, hf, hd⟩
  rw [turn, Flight.totalWeight_append]
  exact this

/-- The writer may do one more thing; if its turn is over it waits for the next. -/
def makeReady (cluster : Cluster σ τ) (t : Traffic σ τ) : Traffic σ τ :=
  if t.allowance = 0 then t.turn cluster else t

/-- Counts one thing that the writer did. -/
def spend (t : Traffic σ τ) : Traffic σ τ := { t with allowance := t.allowance - 1 }

/-- Books what landed, as far as the writer's turn allows (`reap_finished`). -/
def reap (t : Traffic σ τ) : Traffic σ τ :=
  let count := min t.allowance t.channel.landed.length
  { t with channel := t.channel.book count, allowance := t.allowance - count }

/-- Waits until the channel is ready. Gives up, and says so, at a time that is too late; with
nothing under way there is nothing to wait for. -/
def await (cluster : Cluster σ τ) (ready : Channel τ → Bool) (tooLate : Nat → Bool)
    (t : Traffic σ τ) :
    Bool × Traffic σ τ :=
  if ready t.channel then (true, t)
  else
    match _h : t.channel.nextDue? with
    | none => (true, t)
    | some due =>
      let now := max t.now due
      if tooLate now then (false, t) else await cluster ready tooLate (turn cluster { t with now })
termination_by Flight.totalWeight t.channel.flights
decreasing_by exact turn_weight cluster { t with now := max t.now due } _h (Nat.le_max_right ..)

/-- Lets the waiting batch go when there is room; with no concurrent batches, also waits for its
end. False if it is too late for one or the other, and then the waiting batch is dropped. -/
def release (cluster : Cluster σ τ) (tooLate : Nat → Bool) (t : Traffic σ τ) : Bool × Traffic σ τ :=
  if t.channel.isInline then
    let ended := await cluster Channel.isIdle tooLate (t.onChannel (Channel.launch t.now))
    (ended.1, ended.2.onChannel Channel.bookLanded)
  else
    let room := await cluster Channel.hasRoom tooLate (t.makeReady cluster)
    if room.1 then (true, (room.2.onChannel (Channel.launch room.2.now)).spend)
    else (false, room.2.onChannel fun c => { c with waiting := none })

/-- Cuts a batch from what is buffered, if anything is, and lets it go. -/
def dispatch (cluster : Cluster σ τ) (tooLate : Nat → Bool) (t : Traffic σ τ) :
    Bool × Traffic σ τ :=
  let t := t.reap
  if t.channel.buffer.isEmpty then (true, t) else release cluster tooLate (t.onChannel Channel.cut)

/-- No time is too late. -/
def patient : Nat → Bool := fun _ => false

/-- Takes an operation, and lets a batch go if a limit is reached. -/
def add (cluster : Cluster σ τ) (op : Operation) (t : Traffic σ τ) : Traffic σ τ :=
  let t := t.onChannel (·.push op)
  if t.channel.isFull then (dispatch cluster patient t).2 else t

/-- Lets go what is buffered and waits for all batches, for so many milliseconds at most. Says
whether all were booked; what ended by then is booked, and what did not is dropped. A batch that would
end at the very moment is dropped too, but where each batch is waited for it still counts. -/
def close (cluster : Cluster σ τ) (timeout : Nat) (t : Traffic σ τ) : Bool × Traffic σ τ :=
  let deadline := t.now + timeout
  let tooLate : Nat → Bool := if t.channel.isInline then (deadline < ·) else (deadline ≤ ·)
  let sent := dispatch cluster tooLate t
  let drained := if sent.1 then await cluster Channel.isIdle tooLate sent.2 else sent
  let booked := drained.2.onChannel Channel.bookLanded
  if drained.1 then (true, booked)
  else (false, { booked.onChannel Channel.dropFlights with now := max booked.now deadline })

end Traffic

end Reindex
