import Reindex.Bulk.Channel
import Reindex.Calls
import Reindex.Error

/-!
# Writing into an index

A writer opens its bulk channel with the first operation and closes it when it is flushed; that is
one bulk window, and there may be several. In an index that the run created, the managed settings
are lowered for the window and restored at its end, and after each window the index is refreshed.

Main statement: `Writer.closed_of_flush` says that a flush leaves the channel closed, whether it
worked or not.
-/

namespace Reindex

/-- What a run may wait for when it writes. -/
structure WriterOptions where
  backoff : BackoffPolicy := {}
  /-- Milliseconds that a flush may take. -/
  flushTimeout : Nat := 120000
deriving DecidableEq, Repr, Inhabited

/-- Managed settings while a bulk window is open: no replicas, and no refreshing
(`bulk_window_update`). -/
def Tuning.windowUpdate (t : Tuning) : SettingsUpdate :=
  ⟨t.replicas.map fun _ => 0, t.refreshInterval.map fun _ => "-1"⟩

/-- Managed settings as configured. -/
def Tuning.restoreUpdate (t : Tuning) : SettingsUpdate := ⟨t.replicas, t.refreshInterval⟩

/-- The writer's window: closed, with the ledger of the run, or open. -/
inductive BulkWindow (τ : Type) where
  | closed (tally : RunTally)
  | opened (channel : Channel τ)

def BulkWindow.tally {τ : Type} : BulkWindow τ → RunTally
  | .closed tally => tally
  | .opened channel => channel.tally

def BulkWindow.isOpen {τ : Type} : BulkWindow τ → Bool
  | .closed _ => false
  | .opened _ => true

/-- What does not change about a writer. -/
structure WriterSetup where
  index : String
  tuning : Tuning
  /-- The index was created by this run, so that its settings are the writer's to change. -/
  created : Bool
  options : WriterOptions
deriving DecidableEq, Repr

/-- A writer at work, with the clock and the cluster (`BulkIngestionEngine`). -/
structure Writer (σ τ : Type) where
  window : BulkWindow τ
  /-- Milliseconds. -/
  now : Nat
  cluster : σ
  /-- What is left of the writer's turn. -/
  allowance : Nat := turnAllowance

namespace Writer

variable {σ τ : Type}

/-- A writer that has not written. -/
def idle (cluster : σ) : Writer σ τ := { window := .closed {}, now := 0, cluster }

def tally (w : Writer σ τ) : RunTally := w.window.tally

/-- An open channel at work. -/
def traffic (channel : Channel τ) (w : Writer σ τ) : Traffic σ τ :=
  { channel, now := w.now, cluster := w.cluster, allowance := w.allowance }

/-- The writer of a channel at work. -/
def ofTraffic (t : Traffic σ τ) : Writer σ τ :=
  { window := .opened t.channel, now := t.now, cluster := t.cluster, allowance := t.allowance }

/-- Takes one call of the writer's turn. If the turn is over, the batches under way have theirs
before. -/
def takeTurn (cluster : Cluster σ τ) (w : Writer σ τ) : Writer σ τ :=
  match w.window with
  | .closed _ =>
    { w with allowance := (if w.allowance = 0 then turnAllowance else w.allowance) - 1 }
  | .opened channel => ofTraffic ((w.traffic channel).makeReady cluster).spend

/-- A call to the cluster. -/
def ask {α : Type} (cluster : Cluster σ τ) (x : EStateM Failure σ α) :
    EStateM Error (Writer σ τ) α := fun w =>
  let w := w.takeTurn cluster
  match x w.cluster with
  | .ok a cluster => .ok a { w with cluster }
  | .error failure cluster => .error (.cluster failure) { w with cluster }

/-- Managed settings of an index that the run created. -/
def applySettings (cluster : Cluster σ τ) (setup : WriterSetup) (update : SettingsUpdate) :
    EStateM Error (Writer σ τ) Unit := do
  if setup.created && !update.isEmpty then ask cluster (cluster.updateSettings setup.index update)

/-- The open channel; it is opened if need be. -/
def openChannel (cluster : Cluster σ τ) (setup : WriterSetup) :
    EStateM Error (Writer σ τ) (Channel τ) := do
  match (← get).window with
  | .opened channel => return channel
  | .closed tally =>
    applySettings cluster setup setup.tuning.windowUpdate
    let channel := Channel.ofTally setup.index setup.tuning.limits setup.options.backoff tally
    modify fun w => { w with window := .opened channel }
    return channel

/-- Writes one operation. -/
def add (cluster : Cluster σ τ) (setup : WriterSetup) (op : Operation) :
    EStateM Error (Writer σ τ) Unit := do
  let channel ← openChannel cluster setup
  modify fun w => ofTraffic (Traffic.add cluster op (w.traffic channel))

/-- Lets so many milliseconds go by, and batches that are due before they are over. -/
def pause (cluster : Cluster σ τ) (wait : Nat) (w : Writer σ τ) : Writer σ τ :=
  if wait = 0 then w.takeTurn cluster
  else
    let till := w.now + wait
    match w.window with
    | .closed _ => { w with now := till, allowance := turnAllowance }
    | .opened channel =>
      let waited := Traffic.await cluster (fun _ => false) (till ≤ ·) (w.traffic channel)
      ofTraffic { waited.2 with now := till, allowance := turnAllowance }

/-- A bulk call past the channel, whose end is waited for. Batches that are due before then are
run. -/
def bulk (cluster : Cluster σ τ) (index : String) (ops : List Operation) (w : Writer σ τ) :
    BulkAnswer × Writer σ τ :=
  let w := w.takeTurn cluster
  let begun := cluster.beginBulk w.now index ops w.cluster
  let w := pause cluster (min begun.1.1 longestWait) { w with cluster := begun.2 }
  let ended := cluster.finishBulk begun.1.2 index ops w.cluster
  (ended.1, { w with cluster := ended.2 })

/-- Closes an open channel; says whether all batches were booked. -/
def drain (cluster : Cluster σ τ) (setup : WriterSetup) (w : Writer σ τ) :
    Option Bool × Writer σ τ :=
  match w.window with
  | .closed _ => (none, w)
  | .opened channel =>
    let closed := Traffic.close cluster setup.options.flushTimeout (w.traffic channel)
    (some closed.1, { ofTraffic closed.2 with window := .closed closed.2.channel.tally })

/-- Ends the bulk window, if one is open, and refreshes the index. Says whether all batches were
booked. -/
def flush (cluster : Cluster σ τ) (setup : WriterSetup) : EStateM Error (Writer σ τ) Bool := do
  let drained ← modifyGet (drain cluster setup)
  if drained.isSome then applySettings cluster setup setup.tuning.restoreUpdate
  ask cluster (cluster.refreshIndex setup.index)
  return drained.getD true

theorem isOpen_takeTurn (cluster : Cluster σ τ) (w : Writer σ τ) :
    (w.takeTurn cluster).window.isOpen = w.window.isOpen := by
  simp only [takeTurn]
  split
  · rename_i tally h; simp [h]
  · rename_i channel h; simp [h, ofTraffic, BulkWindow.isOpen]

theorem isOpen_ask {α : Type} (cluster : Cluster σ τ) (x : EStateM Failure σ α) (w : Writer σ τ) :
    (stateAfter (ask cluster x w)).window.isOpen = w.window.isOpen := by
  rw [← isOpen_takeTurn cluster w]
  simp only [ask]
  split <;> rfl

theorem isOpen_applySettings (cluster : Cluster σ τ) (setup : WriterSetup) (update : SettingsUpdate)
    (w : Writer σ τ) :
    (stateAfter (applySettings cluster setup update w)).window.isOpen = w.window.isOpen := by
  simp only [applySettings]
  split
  · exact isOpen_ask cluster _ w
  · rfl

theorem isOpen_drain (cluster : Cluster σ τ) (setup : WriterSetup) (w : Writer σ τ) :
    (drain cluster setup w).2.window.isOpen = false := by
  simp only [drain]
  split
  · rename_i tally h; simp [h, BulkWindow.isOpen]
  · rfl

/-- After a flush the channel is closed, even if the flush failed. -/
theorem closed_of_flush (cluster : Cluster σ τ) (setup : WriterSetup) (w : Writer σ τ) :
    (stateAfter (flush cluster setup w)).window.isOpen = false := by
  let P : Writer σ τ → Prop := fun w => w.window.isOpen = false
  have settings (update : SettingsUpdate) : Keeps P (applySettings cluster setup update) :=
    fun w hw => (isOpen_applySettings cluster setup update w).trans hw
  have refreshed : Keeps P (ask cluster (cluster.refreshIndex setup.index)) :=
    fun w hw => (isOpen_ask cluster _ w).trans hw
  have ending (b : Bool) : Keeps P (do ask cluster (cluster.refreshIndex setup.index); return b) :=
    Keeps.bind refreshed fun _ => Keeps.pure b
  refine stateAfter_bind (P := P) (isOpen_drain cluster setup w) fun drained => ?_
  by_cases h : drained.isSome
  · simpa [h] using Keeps.bind (settings _) fun _ => ending _
  · simpa [h] using ending _

end Writer

end Reindex
