import Reindex.Breakdown
import Reindex.Report.Table

/-!
# The command line

The words of a command line are at most one configuration file and the switches `--update`,
`--delete-index`, `--no-switch` and `--no-progress`, each at most once. Without such a file only the
environment counts. Switches turn something on, or off, but never back. A run prints its report; the
exit code is 0 for a clean run, 2 for one in which something failed, and 1 for one that ended early.
A command line that is not understood ends with 2, and a run that breaks down with 101.
-/

namespace Reindex

/-- What the command line asks for (`Cli`). -/
structure Arguments where
  config : Option String := none
  update : Bool := false
  deleteIndex : Bool := false
  noSwitch : Bool := false
  noProgress : Bool := false
deriving DecidableEq, Repr

inductive Command where
  | ingest (arguments : Arguments)
  | version
  | help
deriving DecidableEq, Repr

/-- The lines that a process prints, and the code it exits with. -/
structure Outcome where
  exit : Nat
  lines : List String
deriving DecidableEq, Repr

namespace Command

def versionLine : String := "ixl 0.1.0"

/-- The file that holds the configuration if none is named. -/
def defaultConfig : String := "ixl.toml"

/-- A switch that is given; none if it was given before. -/
def turnOn (a : Arguments) : String → Option Arguments
  | "--update" => if a.update then none else some { a with update := true }
  | "--delete-index" => if a.deleteIndex then none else some { a with deleteIndex := true }
  | "--no-switch" => if a.noSwitch then none else some { a with noSwitch := true }
  | "--no-progress" => if a.noProgress then none else some { a with noProgress := true }
  | _ => none

/-- A configuration file that is named; none if one was named before, or the name is empty. -/
def name (a : Arguments) (path : String) : Option Arguments :=
  if a.config.isSome ∨ path.isEmpty then none else some { a with config := some path }

/-- The command in the words behind the name of the program; none if they are not understood. After
`--` every word is a name. -/
def read (namesOnly : Bool) (a : Arguments) : List String → Option Command
  | [] => some (.ingest a)
  | word :: words =>
    if namesOnly then do read true (← name a word) words
    else if word = "--" then read true a words
    else if word = "--version" ∨ word.startsWith "-V" then some .version
    else if word = "--help" ∨ word.startsWith "-h" then some .help
    else if word.startsWith "-" ∧ word ≠ "-" then do read false (← turnOn a word) words
    else do read false (← name a word) words

/-- A configuration with what the command line turns on. -/
def apply (a : Arguments) (c : Config) : Config :=
  { c with
    index := { c.index with update := c.index.update || a.update, delete := c.index.delete || a.deleteIndex }
    runtime :=
      { c.runtime with
        switchAlias := c.runtime.switchAlias && !a.noSwitch
        progress := c.runtime.progress && !a.noProgress } }

/-- Where the configuration is looked for. -/
def configPath (a : Arguments) : String := a.config.getD defaultConfig

/-- The configuration of a run: from the file too if it is there. A path that cannot be followed is
no configuration. -/
def loadConfig (a : Arguments) (files : Files) (env : List (String × String)) :
    Except ConfigFault Config :=
  let path := configPath a
  match files path with
  | .unreachable => .error (.withFile path)
  | .absent => (Config.load files env none).map (apply a)
  | _ => (Config.load files env (some path)).map (apply a)

/-- What a run shows. -/
def report : Except RunError RunSummary → Outcome
  | .ok summary => ⟨if summary.failed then 2 else 0, summary.report.lines⟩
  | .error _ => ⟨1, []⟩

/-- What comes of the run of a configuration (`run_cli`). -/
def carryOut (config : Config) (files : Files) (wire : Wire) (now : Instant) : Outcome :=
  if breaksDown config files wire now then ⟨101, []⟩ else report (run config files wire now)

/-- How the process of a configuration ends, also where the name of its run cannot be written. -/
def ending (config : Config) (files : Files) (wire : Wire) (now : Instant) : Outcome :=
  if breaksDownAtName config files wire then ⟨101, []⟩ else carryOut config files wire now

/-- The first file that some words name: the configuration. -/
def firstPaths (words : List String) : List String :=
  match read false {} words with
  | some (.ingest a) => [configPath a]
  | _ => []

/-- The other files that some words name, once the configuration can be read. -/
def otherPaths (words : List String) (files : Files) (env : List (String × String)) : List String :=
  match read false {} words with
  | some (.ingest a) => ((loadConfig a files env).toOption.map Config.filePaths).getD []
  | _ => []

/-- What the process does (`main`). -/
def execute (words : List String) (files : Files) (env : List (String × String)) (wire : Wire)
    (now : Instant) :
    Outcome :=
  match read false {} words with
  | none => ⟨2, []⟩
  | some .version => ⟨0, [versionLine]⟩
  | some .help => ⟨0, []⟩
  | some (.ingest a) =>
    match loadConfig a files env with
    | .error _ => ⟨1, []⟩
    | .ok config => ending config files wire now

end Command

end Reindex
