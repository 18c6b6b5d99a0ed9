import Reindex.Config.Load

/-!
# Runs

A whole run: the index is made ready, the records are written, the channel is flushed, and the alias
is moved if that is wanted. If the records cannot be read to their end the session is aborted, so
that the bulk window does not outlive the run, and the alias stays.

Here and in what this builds on, the name that the program has for a thing stands in parentheses
behind the description of the thing, where it is another name.
-/

namespace Reindex

/-- Why a run ended without a summary. -/
inductive RunError where
  | config (fault : ConfigFault)
  /-- The cluster cannot be addressed. -/
  | noCluster (failure : Failure)
  | index (error : Error)
  | payload (fault : PayloadFault)
  /-- There is no record file to open. -/
  | noRecordFile (path : String)
  | record (fault : RecordFault)
deriving DecidableEq, Repr

namespace RunError

def message : RunError → String
  | .config fault => fault.message
  | .noCluster _ => "💀 could not build the search backend"
  | .index error => error.message
  | .payload fault => fault.message
  | .noRecordFile path =>
    "💀 could not open record file '" ++ path ++
      "'. Check the path, the permissions, and whether it exists at all."
  | .record fault => fault.message

/-- The messages behind the message. -/
def causes : RunError → List String
  | .noCluster failure => [failure.message]
  | .record fault => fault.causes
  | _ => []

end RunError

variable {σ τ : Type}

/-- Writes the records of a source up to its end or to one that cannot be read. -/
def feedLines (cluster : Cluster σ τ) (path : String) :
    List (Option String) → Nat → EStateM RunError (Session σ τ) Unit
  | [], _ => return ()
  | line :: lines, n => do
    match RecordSource.read path [line] n with
    | (.error fault, _) => throw (.record fault)
    | (.ok none, _, n) => feedLines cluster path lines n
    | (.ok (some record), _, n) =>
      (Session.add cluster record.operation).adaptExcept .index
      feedLines cluster path lines n

/-- Writes the records of the input file, if there is one (`feed_records`). -/
def feed (cluster : Cluster σ τ) (files : Files) (input : Option String) :
    EStateM RunError (Session σ τ) Unit := do
  match input with
  | none => return ()
  | some path =>
    match RecordSource.ofFile? path (files path) with
    | none => throw (.noRecordFile path)
    | some source => feedLines cluster path source.lines source.line

/-- What a session does: writes the records, flushes, and closes. -/
def work (cluster : Cluster σ τ) (config : Config) (files : Files) :
    EStateM RunError (Session σ τ) RunSummary := fun s =>
  match feed cluster files config.inputFile s with
  | .error e s => .error e (stateAfter (Session.abort cluster s))
  | .ok _ s =>
    let ending := do
      let _ ← Session.flush cluster
      Session.close cluster config.runtime.switchAlias
    (ending.adaptExcept .index) s

/-- The run of a configuration against a cluster at an instant (`run_with_backend`). -/
def runWith (cluster : Cluster σ τ) (config : Config) (files : Files) (now : Instant) :
    EStateM RunError σ RunSummary := fun s =>
  match config.namingPolicy with
  | .error e => .error (.index e) s
  | .ok policy =>
    match config.index.loadPayload files with
    | .error fault => .error (.payload fault) s
    | .ok payload =>
      match Session.start cluster policy now config.index.tuning payload
        config.sessionOptions s with
      | .error (e, s) => .error (.index e) s
      | .ok session =>
        match work cluster config files session with
        | .ok summary session => .ok summary session.writer.cluster
        | .error e session => .error e session.writer.cluster

/-- A run against the cluster that the configuration names. -/
def run (config : Config) (files : Files) (wire : Wire) (now : Instant) :
    Except RunError RunSummary :=
  match Deployment.ofConfig config.cluster wire with
  | .error failure => .error (.noCluster failure)
  | .ok deployment =>
    match runWith Deployment.cluster config files now deployment with
    | .ok summary _ => .ok summary
    | .error e _ => .error e

end Reindex
