import Reindex.CommandLine
import Std.Time.DateTime.Timestamp

/-!
# The program

Reads the files and variables that the command line asks for, and prints what follows from them.
Nothing is contacted from here: a cluster behind a REST interface is out of reach.
-/

namespace Reindex.Main

/-- The number of the error of reading a directory. -/
def isDirectoryError : UInt32 := 21

/-- What is found under a path. -/
def readEntry (path : String) : IO FileEntry := do
  match ← (IO.FS.readBinFile path).toBaseIO with
  | .ok bytes => return .content bytes.toList
  | .error (.noFileOrDirectory ..) => return .absent
  | .error (.inappropriateType _ number _) => return if number = isDirectoryError then .directory
    else .unreachable
  | .error _ => return .unreachable

/-- What is found under some paths. -/
def readEntries (paths : List String) : IO (List (String × FileEntry)) :=
  paths.mapM fun path => return (path, ← readEntry path)

/-- A variable and its value, from the form `name=value`. -/
def assignment? (bytes : List UInt8) : Option (String × String) := do
  let text ← String.fromUTF8? ⟨bytes.toArray⟩
  let cs := text.toList
  return (String.ofList (cs.takeWhile (· ≠ '=')), String.ofList ((cs.dropWhile (· ≠ '=')).drop 1))

/-- The variables of the process. -/
def environment : IO (List (String × String)) := do
  match ← (IO.FS.readBinFile "/proc/self/environ").toBaseIO with
  | .ok bytes => return (bytes.toList.splitOn 0).filterMap assignment?
  | .error _ => return []

/-- The time by the wall clock. -/
def now : IO Instant := do
  let t ← Std.Time.Timestamp.now
  return ⟨t.val.second.val, t.val.nano.val.toNat⟩

end Reindex.Main

open Reindex in
/-- Runs the command line. -/
def main (words : List String) : IO UInt32 := do
  let env ← Main.environment
  let first ← Main.readEntries (Command.firstPaths words)
  let others ← Main.readEntries (Command.otherPaths words (Files.ofList first) env)
  let outcome := Command.execute words (Files.ofList (first ++ others)) env .down (← Main.now)
  for line in outcome.lines do IO.println line
  return outcome.exit.toUInt32
