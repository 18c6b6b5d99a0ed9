import Reindex.Lifecycle
import Reindex.Writer

/-!
# Sessions

One run against one index: the lifecycle of the index, a writer into it, and whether every flush so
far was complete. A session ends by `Session.close`, which may move the alias, or by
`Session.abort`, which never does.

Main statement: `Session.lifecycle_flush` says that writing and flushing leave the lifecycle as it
is.
-/

namespace Reindex

structure SessionOptions where
  lifecycle : LifecycleOptions := {}
  writer : WriterOptions := {}
deriving DecidableEq, Repr, Inhabited

/-- The report at the end of a run. -/
structure RunSummary where
  aliasName : Option String
  index : String
  created : Bool
  counters : RunCounters
  failed : Bool
  /-- No flush ran out of time. -/
  drained : Bool
  outcome : SwitchOutcome
deriving DecidableEq, Repr

/-- A session with its cluster (`IngestSession`). -/
structure Session (σ τ : Type) where
  lifecycle : Lifecycle
  options : WriterOptions
  drained : Bool := true
  writer : Writer σ τ

namespace Session

variable {σ τ : Type}

/-- What the writer of a session works with. -/
def setup (s : Session σ τ) : WriterSetup :=
  { index := s.lifecycle.identity.index, tuning := s.lifecycle.tuning,
    created := s.lifecycle.created, options := s.options }

/-- The session of an index that is ready. -/
def ofLifecycle (l : Lifecycle) (options : WriterOptions) (cluster : σ) : Session σ τ :=
  { lifecycle := l, options, writer := .idle cluster }

/-- Resolves the name, makes sure of the index and waits for the cluster (`IngestSession.open`).
What cannot start leaves an error and the state of the cluster. -/
def start (cluster : Cluster σ τ) (policy : NamingPolicy) (now : Instant) (tuning : Tuning)
    (payload : IndexPayload) (options : SessionOptions) (s : σ) :
    Except (Error × σ) (Session σ τ) :=
  match Lifecycle.start cluster policy now tuning payload options.lifecycle s with
  | .ok l s => .ok (ofLifecycle l options.writer s)
  | .error e s => .error (e, s)

/-- The writer does something. -/
def writing {α : Type} (x : WriterSetup → EStateM Error (Writer σ τ) α) :
    EStateM Error (Session σ τ) α := fun s =>
  match x s.setup s.writer with
  | .ok a writer => .ok a { s with writer }
  | .error e writer => .error e { s with writer }

/-- A step against the cluster. -/
def asking {α : Type} (cluster : Cluster σ τ) (x : Lifecycle → EStateM Error σ α) :
    EStateM Error (Session σ τ) α :=
  fun s =>
    let writer := s.writer.takeTurn cluster
    match x s.lifecycle writer.cluster with
    | .ok a cluster => .ok a { s with writer := { writer with cluster } }
    | .error e cluster => .error e { s with writer := { writer with cluster } }

def tally (s : Session σ τ) : RunTally := s.writer.tally

/-- Writes one operation. -/
def add (cluster : Cluster σ τ) (op : Operation) : EStateM Error (Session σ τ) Unit :=
  writing fun setup => Writer.add cluster setup op

/-- Ends the bulk window; says whether all batches of it were booked. -/
def flush (cluster : Cluster σ τ) : EStateM Error (Session σ τ) Bool := do
  let drained ← writing (Writer.flush cluster)
  modify fun s => { s with drained := s.drained && drained }
  return drained

/-- Reads a document of the index, past the alias. -/
def getDocument (cluster : Cluster σ τ) (id : String) :
    EStateM Error (Session σ τ) (Option String) :=
  asking cluster fun l => call (cluster.getDocument l.identity.index id)

/-- Stores a document, past the channel and the counters (`index_document`). -/
def putDocument (cluster : Cluster σ τ) (id body : String) : EStateM Error (Session σ τ) Unit :=
  asking cluster fun l => call (cluster.putDocument l.identity.index id body)

/-- Ends a run that went wrong: what is buffered is flushed, and the alias stays. -/
def abort (cluster : Cluster σ τ) : EStateM Error (Session σ τ) RunCounters := do
  let _ ← flush cluster
  return (← get).tally.counters

/-- Decides on the alias. -/
def decide (cluster : Cluster σ τ) (switch : Bool) : EStateM Error (Session σ τ) SwitchOutcome := do
  if switch then
    let tally := (← get).tally
    let decided ← asking cluster fun l => l.switchIndex cluster tally
    modify fun s => { s with lifecycle := decided.2 }
    return decided.1
  else return .notRequested

/-- The report of a session with an outcome. -/
def summary (s : Session σ τ) (outcome : SwitchOutcome) : RunSummary :=
  { aliasName := s.lifecycle.identity.aliasName, index := s.lifecycle.identity.index,
    created := s.lifecycle.created, counters := s.tally.counters, failed :=
      s.tally.failed, drained := s.drained, outcome }

/-- Ends a run: what was written is flushed, then the alias is moved if that is asked for. -/
def close (cluster : Cluster σ τ) (switch : Bool) : EStateM Error (Session σ τ) RunSummary := do
  if (← get).writer.window.isOpen then let _ ← flush cluster
  let outcome ← decide cluster switch
  return (← get).summary outcome

theorem lifecycle_writing {α : Type} (x : WriterSetup → EStateM Error (Writer σ τ) α)
    (s : Session σ τ) :
    (stateAfter (writing x s)).lifecycle = s.lifecycle := by
  simp only [writing]
  split <;> rfl

/-- Flushing leaves the lifecycle as it is. -/
theorem lifecycle_flush (cluster : Cluster σ τ) (s : Session σ τ) :
    (stateAfter (flush cluster s)).lifecycle = s.lifecycle := by
  refine stateAfter_bind (P := fun t : Session σ τ => t.lifecycle = s.lifecycle)
    (lifecycle_writing _ s)
    fun drained => ?_
  exact Keeps.bind (fun t ht => ht) fun _ => Keeps.pure _

end Session

end Reindex
