import Reindex.Binary64.Decimal
import Reindex.Text.Digits

/-!
# Figures

Counts, durations and amounts of bytes as they are shown to people.

Main statement: `groupDigits_filter` says that a count without its commas is the count in plain
digits.
-/

namespace Reindex

/-- Digits with a comma in front of every three that are left, but not in front of all. -/
def groupDigits : List Char → List Char
  | [] => []
  | d :: ds =>
    if ds.length % 3 = 0 ∧ ds ≠ [] then d :: ',' :: groupDigits ds else d :: groupDigits ds

/-- A count: `1,234,567`. -/
def formatNumber (n : Nat) : String := String.ofList (groupDigits (Nat.toDigits 10 n))

/-- A number with two digits at least. -/
def twoDigits (n : Nat) : List Char := Text.paddedDigits 2 n

/-- A duration in milliseconds as minutes and seconds, with hours if there are any. -/
def formatDuration (milliseconds : Nat) : String :=
  let seconds := milliseconds / 1000
  let hours := seconds / 3600
  let clock := twoDigits (seconds % 3600 / 60) ++ ':' :: twoDigits (seconds % 60)
  String.ofList (if hours > 0 then twoDigits hours ++ ':' :: clock else clock)

def kibibyte : Nat := 1024
def mebibyte : Nat := 1024 * 1024

/-- An amount of bytes in the unit that suits the whole file. -/
def formatBytes (bytes fileSize : Nat) : String :=
  if fileSize ≥ 512 * mebibyte then
    ((Binary64.ofNat bytes).div (.ofNat mebibyte)).fixedText 2 ++ " MiB"
  else if fileSize ≥ mebibyte then ((Binary64.ofNat bytes).div (.ofNat kibibyte)).fixedText
    2 ++ " KiB"
  else toString bytes ++ " bytes"

theorem groupDigits_filter (ds : List Char) (h : ',' ∉ ds) :
    (groupDigits ds).filter (· ≠ ',') = ds := by
  induction ds with
  | nil => rfl
  | cons d ds ih =>
    have hd : d ≠ ',' := fun hc => h (by simp [hc])
    have hds : ',' ∉ ds := fun hc => h (List.mem_cons_of_mem _ hc)
    have ih := ih hds
    simp only [groupDigits]
    split <;> simp [hd] <;> simpa using ih

end Reindex
