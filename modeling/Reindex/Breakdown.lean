import Reindex.Run

/-!
# Runs that break down

A configuration is taken with any numbers that its fields can hold, but some of them go into
operations that take less. The time for the request that waits for a cluster is a sum of two, and a
channel sets its buffer aside and counts its batches. A run that comes to such an operation with a
number beyond its range breaks down there: it has no result, and what it did to the cluster stays
done. Whether there is memory for a buffer of a size that could be had is not asked.

A year in a minted name has as many places as its pattern has letters, and only so many can be
written. That comes before anything is asked of the cluster and is a matter of its own,
`breaksDownAtName`.

Main definitions: `breakdown?` and `breaksDownAtName`.
-/

namespace Reindex

/-- The most seconds that a span of time can have. -/
def longestSpan : Nat := UInt64.size - 1

namespace Config

/-- The seconds for the request that waits for the cluster; none in memory, where no request is
sent. -/
def healthRequestSecs? (c : Config) : Option Nat :=
  match c.cluster with
  | .memory _ => none
  | .rest rest => some (c.runtime.healthTimeoutSecs + rest.requestTimeoutSecs)

/-- They make a span of time. -/
def Awaitable (c : Config) : Prop := ∀ secs ∈ c.healthRequestSecs?, secs ≤ longestSpan

instance (c : Config) : Decidable c.Awaitable :=
  inferInstanceAs (Decidable (∀ secs ∈ c.healthRequestSecs?, secs ≤ longestSpan))

/-- Every number is in the range of the operation that it goes into. -/
def InRange (c : Config) : Prop := c.Awaitable ∧ c.index.tuning.limits.Openable

end Config

variable {σ τ : Type}

/-- What a start does before it waits for the cluster. -/
def Lifecycle.prepare (cluster : Cluster σ τ) (policy : NamingPolicy) (now : Instant)
    (tuning : Tuning) (payload : IndexPayload) (options : LifecycleOptions) :
    EStateM Error σ Unit := do
  let identity ← policy.resolve cluster now
  let _ ← ensureIndex cluster identity.index tuning payload options

/-- There is something to write: the first line of the input file that is not blank is a record. -/
def hasRecord (files : Files) (input : Option String) : Bool :=
  match input.bind fun path => RecordSource.ofFile? path (files path) with
  | none => false
  | some source =>
    match RecordSource.read source.path source.lines source.line with
    | (.ok (some _), _) => true
    | _ => false

/-- Where a run breaks down. -/
inductive Breakdown where
  /-- At the wait for the cluster. -/
  | wait
  /-- At the first operation, for which the channel is opened. -/
  | channel
deriving DecidableEq, Repr

/-- The cluster as a session leaves it that comes to open its channel; none if it never does. -/
def Session.opening? (cluster : Cluster σ τ) (files : Files) (input : Option String)
    (s : Session σ τ) : Option σ :=
  if hasRecord files input then
    match Writer.applySettings cluster s.setup s.setup.tuning.windowUpdate s.writer with
    | .ok _ writer => some writer.cluster
    | .error _ _ => none
  else none

/-- Where a run breaks down, if it does, and the cluster as it leaves it. -/
def breakdown? (cluster : Cluster σ τ) (config : Config) (files : Files) (now : Instant) (s : σ) :
    Option (Breakdown × σ) :=
  match config.namingPolicy, config.index.loadPayload files with
  | .ok policy, .ok payload =>
    if config.Awaitable then
      if config.index.tuning.limits.Openable then none
      else
        match Session.start cluster policy now config.index.tuning payload
          config.sessionOptions s with
        | .ok session => (session.opening? cluster files config.inputFile).map (.channel, ·)
        | .error _ => none
    else
      match Lifecycle.prepare cluster policy now config.index.tuning payload
        config.sessionOptions.lifecycle s with
      | .ok _ s => some (.wait, s)
      | .error _ _ => none
  | _, _ => none

/-- The run of a configuration breaks down. -/
def breaksDown (config : Config) (files : Files) (wire : Wire) (now : Instant) : Bool :=
  match Deployment.ofConfig config.cluster wire with
  | .error _ => false
  | .ok deployment => (breakdown? Deployment.cluster config files now deployment).isSome

/-- The run of a configuration breaks down at its name, which is to be minted with a window that
cannot be written. -/
def breaksDownAtName (config : Config) (files : Files) (wire : Wire) : Bool :=
  match Deployment.ofConfig config.cluster wire, config.namingPolicy,
    config.index.loadPayload files with
  | .ok _, .ok policy, .ok _ => policy.minting?.any fun window => !window.isWritable
  | _, _, _ => false

end Reindex
