import Reindex.Toml.Value

/-!
# TOML texts

A text is a sequence of lines: headers, which open a table, keys with their values, and lines with
nothing but a comment. `Toml.parse` gives the settings that a text describes.
-/

namespace Reindex.Toml

/-- The tree so far, and the path of the table that is open. -/
structure Reading where
  members : Members := []
  path : List String := []

/-- The rest of a line, which holds nothing but a comment. -/
def endLine (cs : List Char) : Option (List Char) := do
  let rest ← skipComment (skipBlanks cs)
  if rest.isEmpty then some [] else newline? rest

/-- Opens the table with a path. -/
def Reading.open (r : Reading) (enter : String → Members → Option Members) (path : List String) :
    Option Reading := do
  let members ← within (enter (path.getLast?.getD "")) path.dropLast r.members
  return { members, path }

/-- One line, or several if a value goes on. -/
def line (r : Reading) (cs : List Char) : Option (Reading × List Char) := do
  let cs := skipBlanks cs
  match cs with
  | [] => return (r, [])
  | '#' :: _ | '\n' :: _ | '\r' :: _ => return (r, ← endLine cs)
  | '[' :: '[' :: rest =>
    let (path, rest) ← key rest
    match rest with
    | ']' :: ']' :: rest => return (← r.open openElement path, ← endLine rest)
    | _ => none
  | '[' :: rest =>
    let (path, rest) ← key rest
    match rest with
    | ']' :: rest => return (← r.open openTable path, ← endLine rest)
    | _ => none
  | _ =>
    let (path, rest) ← key cs
    match rest with
    | '=' :: rest =>
      let (v, rest) ← value (2 * rest.length + 2) 0 (skipBlanks rest)
      let members ← within (put path v) r.path r.members
      return ({ r with members }, ← endLine rest)
    | _ => none

/-- All lines. -/
def lines : Nat → Reading → List Char → Option Reading
  | 0, _, _ => none
  | fuel + 1, r, cs =>
    if cs.isEmpty then some r
    else do
      let (r, rest) ← line r cs
      lines fuel r rest

/-- The settings that a text describes; none if it is no TOML. -/
def parse (text : String) : Option Setting := do
  let cs := match text.toList with
    | '\uFEFF' :: rest => rest
    | cs => cs
  let r ← lines (cs.length + 1) {} cs
  return .table (← settleMembers (membersToSettings r.members))

end Reindex.Toml
