import Reindex.Text.Quoted

/-!
# Progress through a file

How much of a record file was read so far.
-/

namespace Reindex

structure Progress where
  source : String
  /-- Zero if it is not known. -/
  totalSize : Nat
  bytes : Nat := 0
  records : Nat := 0
deriving DecidableEq, Repr

namespace Progress

/-- Progress after so many more bytes and records (`ProgressMetrics.update`). -/
def advance (p : Progress) (bytes records : Nat) : Progress :=
  { p with bytes := p.bytes + bytes, records := p.records + records }

/-- Progress as text. -/
def describe (p : Progress) : String :=
  "ProgressMetrics \x7b source_name: " ++ Text.quoted p.source ++ ", total_size: " ++
    toString p.totalSize ++
    ", total_bytes: " ++ toString p.bytes ++ ", total_records: " ++ toString p.records ++ " \x7d"

end Progress

end Reindex
