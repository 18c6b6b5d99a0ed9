import Reindex.Files
import Reindex.Record.Line
import Reindex.Text.Blank
import Reindex.Text.Quoted

/-!
# Record files

A record file is read line by line; lines that are blank are passed over but counted. A line that is
not UTF-8 is passed over too, with an error, and is not counted.
-/

namespace Reindex

/-- Bytes up to each line feed; the last line may do without one. -/
def splitLines : List UInt8 → List (List UInt8)
  | [] => []
  | b :: rest =>
    if b = 0x0A then [] :: splitLines rest
    else
      match splitLines rest with
      | line :: lines => (b :: line) :: lines
      | [] => [[b]]

/-- Why the next record cannot be given. -/
inductive RecordFault where
  /-- Bytes behind the given line cannot be read. -/
  | unreadable (path : String) (after : Nat)
  /-- The given line is no record. -/
  | badRecord (path : String) (line : Nat) (fault : LineFault)
deriving DecidableEq, Repr

def RecordFault.message : RecordFault → String
  | .unreadable path after => "💀 reading '" ++ path ++ "' failed after line " ++ toString after
  | .badRecord path line _ => "💀 bad record at " ++ path ++ ":" ++ toString line

/-- The messages behind the message. -/
def RecordFault.causes : RecordFault → List String
  | .unreadable _ _ => []
  | .badRecord _ _ fault => [fault.message]

/-- A file that is being read. Lines that are no text are none. -/
structure RecordSource where
  path : String
  lines : List (Option String)
  /-- How many lines were counted. -/
  line : Nat := 0
deriving DecidableEq, Repr

namespace RecordSource

/-- The source of a file, if there is one (`RecordSource.open`). A directory can be opened, but not
read. -/
def ofFile? (path : String) : FileEntry → Option RecordSource
  | .absent | .unreachable => none
  | .directory => some { path, lines := [none] }
  | .content bytes =>
    some { path, lines := (splitLines bytes).map fun line => String.fromUTF8? ⟨line.toArray⟩ }

/-- Reads on from a number of counted lines: the next record, the lines left and the new number. -/
def read (path : String) :
    List (Option String) → Nat → Except RecordFault (Option Record) × List (Option String) × Nat
  | [], n => (.ok none, [], n)
  | none :: lines, n => (.error (.unreadable path n), lines, n)
  | some text :: lines, n =>
    let trimmed := Text.trim text.toList
    if trimmed.isEmpty then read path lines (n + 1)
    else
      match Record.parse (String.ofList trimmed) with
      | .ok record => (.ok (some record), lines, n + 1)
      | .error fault => (.error (.badRecord path (n + 1) fault), lines, n + 1)

/-- The next record; none at the end of the file (`next_record`). -/
def next (s : RecordSource) : Except RecordFault (Option Record) × RecordSource :=
  let r := read s.path s.lines s.line
  (r.1, { s with lines := r.2.1, line := r.2.2 })

/-- A source as text. -/
def describe (s : RecordSource) : String :=
  "RecordSource \x7b path: " ++ Text.quoted s.path ++ ", line_number: " ++
    toString s.line ++ " \x7d"

end RecordSource

end Reindex
