import Reindex.Config.Decode
import Reindex.Config.Environment
import Reindex.Record.Source
import Reindex.Toml.Document

/-!
# Loading a configuration

The settings in the environment and those in a file are one tree, in which the file counts where
both say something. What an index is created with may stand in files of its own.
-/

namespace Reindex

/-- Where a configuration that cannot be used came from. -/
inductive ConfigFault where
  | withFile (path : String)
  | environmentOnly
deriving DecidableEq, Repr

def ConfigFault.message : ConfigFault → String
  | .withFile path =>
    "💀 Failed to parse configuration from file '" ++ path ++
      "' and environment variables (IXL_*). " ++
      "Check the section names: [backend.Elasticsearch] or [backend.InMemory], [index], [input], [runtime]."
  | .environmentOnly =>
    "💀 Failed to parse configuration from environment variables (IXL_*). " ++
      "No file was provided, so this one is all on the environment."

/-- The settings in a file. What is no file holds none. -/
def fileSettings : FileEntry → Option Setting
  | .absent | .unreachable | .directory => some (.table [])
  | .content bytes => do Toml.parse (← FileEntry.text? (.content bytes))

/-- The configuration in some variables and, if there is a path, the file there. -/
def Config.load (files : Files) (env : List (String × String)) (path : Option String) :
    Except ConfigFault Config :=
  let environment := Environment.settings env
  match path with
  | none => (Decode.config environment).elim (.error .environmentOnly) .ok
  | some path =>
    ((fileSettings (files path)).bind fun file => Decode.config (environment.merge file)).elim
      (.error (.withFile path)) .ok

/-! ## Creation payload -/

/-- A part of what an index is created with. -/
inductive PayloadPart where
  | settings
  | mappings
deriving DecidableEq, Repr

def PayloadPart.name : PayloadPart → String
  | .settings => "settings"
  | .mappings => "mappings"

inductive PayloadFault where
  | givenTwice (part : PayloadPart)
  | unreadable (part : PayloadPart) (path : String)
  | notJson (part : PayloadPart) (path : String)
deriving DecidableEq, Repr

def PayloadFault.message : PayloadFault → String
  | .givenTwice part => "💀 index " ++ part.name ++ " are given both as a file and inline; pick one"
  | .unreadable part path => "💀 could not read index " ++ part.name ++ " from '" ++ path ++ "'"
  | .notJson part path => "💀 index " ++ part.name ++ " file '" ++ path ++ "' is not valid JSON"

/-- One part, from its file or from the configuration itself; an empty object if neither gives
it. -/
def loadPart (files : Files) (part : PayloadPart) (file : Option String) (here : Option Json) :
    Except PayloadFault Json :=
  match file, here with
  | some _, some _ => .error (.givenTwice part)
  | some path, none =>
    match (files path).text? with
    | none => .error (.unreadable part path)
    | some text => (Json.parse text).mapError fun _ => .notJson part path
  | none, some j => .ok j
  | none, none => .ok (.object [])

/-- What the index of a configuration is created with. -/
def IndexConfig.loadPayload (c : IndexConfig) (files : Files) :
    Except PayloadFault IndexPayload := do
  let settings ← loadPart files .settings c.settingsFile c.settings
  let mappings ← loadPart files .mappings c.mappingsFile c.mappings
  return { settings, mappings }

end Reindex
