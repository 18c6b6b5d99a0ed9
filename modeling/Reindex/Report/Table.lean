import Reindex.Report.Figures
import Reindex.Session
import Reindex.Text.Width

/-!
# The report of a run

A table of two columns without rules: labels to the right, values to the left, each cell with a
blank on either side and each column as wide as its widest line.
-/

namespace Reindex

/-- The lines of a cell. -/
def cellLines : List Char → List (List Char)
  | [] => [[]]
  | c :: rest =>
    if c = '\n' then [] :: cellLines rest
    else
      match cellLines rest with
      | line :: lines => (c :: line) :: lines
      | [] => [[c]]

/-- The columns of the widest line of some cells. -/
def columnWidth (cells : List String) : Nat :=
  ((cells.flatMap fun cell => cellLines cell.toList).map fun line => Text.width line).max?.getD 0

/-- A line filled up with blanks, in front or behind. -/
def padLine (width : Nat) (inFront : Bool) (line : List Char) : List Char :=
  let blanks := List.replicate (width - Text.width line) ' '
  if inFront then blanks ++ line else line ++ blanks

/-- The lines of a row of two cells. -/
def rowLines (left right : Nat) (row : String × String) : List String :=
  let labels := cellLines row.1.toList
  let values := cellLines row.2.toList
  (List.range (max labels.length values.length)).map fun i =>
    String.ofList <|
      ' ' :: padLine left true (labels[i]?.getD []) ++ [' ', ' '] ++ padLine right false
        (values[i]?.getD []) ++ [' ']

/-- The lines of a table of two columns. -/
def tableLines (rows : List (String × String)) : List String :=
  rows.flatMap (rowLines (columnWidth (rows.map (·.1))) (columnWidth (rows.map (·.2))))

/-- What the report of a run shows. -/
structure Report where
  index : String
  aliasName : Option String
  created : Bool
  counters : RunCounters
  drained : Bool
  /-- What became of the alias, in words. -/
  switch : String
deriving DecidableEq, Repr

def RunSummary.report (s : RunSummary) : Report :=
  { index := s.index, aliasName := s.aliasName, created := s.created, counters := s.counters,
    drained := s.drained, switch := s.outcome.text }

def yesNo (b : Bool) : String := if b then "yes" else "no"

namespace Report

def rows (r : Report) : List (String × String) :=
  [ ("index", r.index),
    ("alias", r.aliasName.getD "-"),
    ("created", yesNo r.created),
    ("succeeded", formatNumber r.counters.succeeded),
    ("failed", formatNumber r.counters.failed),
    ("deleted", formatNumber r.counters.deleted),
    ("drained", yesNo r.drained),
    ("alias switch", r.switch) ]

def lines (r : Report) : List String := tableLines r.rows

end Report

end Reindex
