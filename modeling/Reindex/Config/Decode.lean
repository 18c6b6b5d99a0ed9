import Reindex.Config.Basic
import Reindex.Config.Setting

/-!
# Configurations from trees

Each reader takes a tree of settings to the value that it describes, or to none if it describes no
such value. Members that are not known are passed over; where a value may be missing it has a
default.
-/

namespace Reindex.Decode

/-- What a tree of settings was written in, which decides how much may stand in it. -/
inductive Source where
  /-- JSON: a list has no items beyond those that have a name, and a word may also be a table of one
  member. -/
  | json
  /-- Files and variables: further items of a list are passed over. -/
  | settings
deriving DecidableEq

/-- The members of a table, or the items of a list under the given names in turn. -/
def members? (source : Source) (names : List String) : Setting → Option (List (String × Setting))
  | .table ms => some ms
  | .list items =>
    if source = .json ∧ items.length > names.length then none else some (names.zip items)
  | _ => none

/-- A member that has to be there. -/
def required {α : Type} (ms : List (String × Setting)) (name : String) (read : Setting → Option α) :
    Option α :=
  (Entries.get? name ms).bind read

/-- A member that has a default. -/
def withDefault {α : Type} (ms : List (String × Setting)) (name : String) (default : α)
    (read : Setting → Option α) :
    Option α :=
  match Entries.get? name ms with
  | some j => read j
  | none => some default

/-- A value that may be null. -/
def nullable {α : Type} (read : Setting → Option α) (j : Setting) : Option (Option α) :=
  if j.isNull then some none else (read j).map some

/-- A natural number below a bound. -/
def natBelow (bound : Nat) (j : Setting) : Option Nat := do
  let n ← j.asNat?
  if n < bound then some n else none

def word32 : Setting → Option Nat := natBelow UInt32.size
def word64 : Setting → Option Nat := natBelow UInt64.size

/-- A number of binary64 precision; an integer is rounded to one. -/
def binary64 : Setting → Option Binary64
  | .number (.natural n) => some (.ofNat n)
  | .number (.negative n) => some (Binary64.ofNat n).neg
  | .number (.binary x) => some x
  | _ => none

/-- One of some alternatives without content: its name, or in JSON a table of that name with
null. -/
def alternative {α : Type} (source : Source) (all : List (String × α)) : Setting → Option α
  | .text s => all.lookup s
  | .table [(s, .null)] => if source = .json then all.lookup s else none
  | _ => none

def health (source : Source) : Setting → Option Health :=
  alternative source [("red", .red), ("yellow", .yellow), ("green", .green)]

def restVersion (source : Source) : Setting → Option RestVersion :=
  alternative source [("v6", .v6), ("v7", .v7), ("v8", .v8)]

def tuning (source : Source) (j : Setting) : Option Tuning := do
  let ms ← members? source
    ["number_of_replicas", "refresh_interval", "bulk_actions", "bulk_requests", "bulk_size_bytes"] j
  return {
    replicas := ← withDefault ms "number_of_replicas" (some 1) (nullable word32)
    refreshInterval := ← withDefault ms "refresh_interval" (some "30s") (nullable Setting.asWord?)
    bulkActions := ← withDefault ms "bulk_actions" 1000 word64
    bulkRequests := ← withDefault ms "bulk_requests" 2 word64
    bulkSizeBytes := ← withDefault ms "bulk_size_bytes" none (nullable word64) }

def backoff (source : Source) (j : Setting) : Option BackoffPolicy := do
  let ms ← members? source ["initial_delay_ms", "multiplier", "max_delay_ms", "max_retries"] j
  return {
    initialDelay := ← withDefault ms "initial_delay_ms" 50 word64
    multiplier := ← withDefault ms "multiplier" (.ofNat 2) binary64
    maxDelay := ← withDefault ms "max_delay_ms" 5000 word64
    maxRetries := ← withDefault ms "max_retries" 8 word32 }

def memoryConfig (source : Source) (j : Setting) : Option Health := do
  withDefault (← members? source ["health"] j) "health" .green (health source)

def restConfig (source : Source) (j : Setting) : Option RestConfig := do
  let ms ← members? source
    ["url", "version", "mapping_type", "username", "password", "api_key", "connect_timeout_secs",
      "request_timeout_secs"] j
  return {
    url := ← required ms "url" Setting.asText?
    version := ← withDefault ms "version" .v7 (restVersion source)
    mappingType := ← withDefault ms "mapping_type" "_doc" Setting.asText?
    credentials := {
      username := ← withDefault ms "username" none (nullable Setting.asText?)
      password := ← withDefault ms "password" none (nullable Setting.asText?)
      apiKey := ← withDefault ms "api_key" none (nullable Setting.asText?) }
    connectTimeoutSecs := ← withDefault ms "connect_timeout_secs" 10 word64
    requestTimeoutSecs := ← withDefault ms "request_timeout_secs" 30 word64 }

/-- A cluster: an object whose first member names its kind. -/
def clusterConfig (source : Source) : Setting → Option ClusterConfig
  | .table ((kind, content) :: rest) =>
    if source = .json ∧ !rest.isEmpty then none
    else
      match kind with
      | "Elasticsearch" => (restConfig source content).map .rest
      | "InMemory" => (memoryConfig source content).map .memory
      | _ => none
  | _ => none

def indexConfig (j : Setting) : Option IndexConfig := do
  let ms ← j.asTable?
  return {
    name := ← required ms "name" Setting.asText?
    timeWindow := ← withDefault ms "time_window" none (nullable Setting.asText?)
    update := ← withDefault ms "update" false Setting.asBool?
    delete := ← withDefault ms "delete" false Setting.asBool?
    settingsFile := ← withDefault ms "settings_file" none (nullable Setting.asText?)
    mappingsFile := ← withDefault ms "mappings_file" none (nullable Setting.asText?)
    settings := ← withDefault ms "settings" none (nullable Setting.json?)
    mappings := ← withDefault ms "mappings" none (nullable Setting.json?)
    tuning := ← tuning .settings j }

def inputFile (j : Setting) : Option (Option String) := do
  withDefault (← members? .settings ["file"] j) "file" none (nullable Setting.asText?)

def runtimeConfig (j : Setting) : Option RuntimeConfig := do
  let ms ← members? .settings ["switch_alias", "health_timeout_secs", "flush_timeout_secs",
    "progress", "backoff"] j
  return {
    switchAlias := ← withDefault ms "switch_alias" true Setting.asBool?
    healthTimeoutSecs := ← withDefault ms "health_timeout_secs" 60 word64
    flushTimeoutSecs := ← withDefault ms "flush_timeout_secs" 120 word64
    progress := ← withDefault ms "progress" true Setting.asBool?
    backoff := ← withDefault ms "backoff" {} (backoff .settings) }

/-- A whole configuration. -/
def config (j : Setting) : Option Config := do
  let ms ← j.asTable?
  return {
    cluster := ← required ms "backend" (clusterConfig .settings)
    index := ← required ms "index" indexConfig
    inputFile := ← withDefault ms "input" none inputFile
    runtime := ← withDefault ms "runtime" {} runtimeConfig }

end Reindex.Decode
