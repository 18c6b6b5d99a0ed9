/-!
# Files

What a run finds under a path. `Files.within` is the view of a tree of files: a path is followed
name by name, and cannot be followed through a file or past a name that is too long.
-/

namespace Reindex

/-- What is found under a path. -/
inductive FileEntry where
  | absent
  /-- The path cannot be followed to its end. -/
  | unreachable
  | directory
  | content (bytes : List UInt8)
deriving DecidableEq, Repr

/-- The files that a run can read. -/
abbrev Files := String → FileEntry

/-- The text of a file, if it is one and is UTF-8. -/
def FileEntry.text? : FileEntry → Option String
  | .content bytes => String.fromUTF8? ⟨bytes.toArray⟩
  | _ => none

namespace Files

/-- The files of a list of entries by path. -/
def ofList (entries : List (String × FileEntry)) : Files :=
  fun path => (entries.lookup path).getD .absent

/-- How many bytes a name on a path may have. -/
def nameLimit : Nat := 255

/-- How many bytes a path may have, and one. -/
def pathLimit : Nat := 4096

/-- The names on a path. An empty one, as at the end of a path with a slash, stands for no step. -/
def names (path : String) : List String := path.splitOn "/"

/-- The names that lead to a file. -/
def steps (path : String) : List String := (names path).filter fun s => s ≠ "" ∧ s ≠ "."

/-- What is found by some names from the place that others lead to. -/
def follow (entryAt : List String → FileEntry) (place : List String) : List String → FileEntry
  | [] => entryAt place
  | name :: rest =>
    match entryAt place with
    | .directory =>
      if name = "" ∨ name = "." then follow entryAt place rest
      else if name = ".." then follow entryAt place.dropLast rest
      else if name.utf8ByteSize > nameLimit then .unreachable
      else follow entryAt (place ++ [name]) rest
    | .content _ => .unreachable
    | other => other

/-- The entry at a place in a tree of files in one directory. -/
def entryAt (root : String) (entries : List (String × List UInt8)) (place : List String) :
    FileEntry :=
  let ways := entries.map fun (path, bytes) => (root :: steps path, bytes)
  match ways.lookup place with
  | some bytes => .content bytes
  | none => if place = [root] ∨ ways.any (fun way => place.isPrefixOf way.1) then .directory
    else .absent

/-- The files in the directory `root`, as seen from a directory whose names are `here`. A path that
begins with `root` or a slash does not start there. -/
def within (root : String) (here : List String) (entries : List (String × List UInt8)) : Files :=
  fun path =>
  if path = "" then .absent
  else if path.utf8ByteSize ≥ pathLimit then .unreachable
  else
    let start := if path.startsWith root ∨ path.startsWith "/" then [] else here
    follow (entryAt root entries) start (names path)

end Files

end Reindex
