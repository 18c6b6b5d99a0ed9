import Reindex.Report.Figures
import Reindex.Text.Pieces

/-!
# Counts in groups of digits

A count is printed with a comma between groups of digits. What stands between the commas is a first
group of one to three digits and then groups of three, and without the commas it is the count in
plain digits. Two counts therefore never look alike.

Main statement: `formatNumber_grouped`.
-/

namespace Reindex

open Text (splitOn)

/-- A first group of one to three digits, and groups of three digits behind it. -/
def Grouped : List (List Char) → Prop
  | [] => False
  | first :: others =>
    (1 ≤ first.length ∧ first.length ≤ 3 ∧ first.all Char.isDigit = true) ∧
      ∀ group ∈ others, group.length = 3 ∧ group.all Char.isDigit = true

instance : DecidablePred Grouped
  | [] => inferInstanceAs (Decidable False)
  | first :: others =>
    inferInstanceAs
      (Decidable ((1 ≤ first.length ∧ first.length ≤ 3 ∧ first.all Char.isDigit = true) ∧
      ∀ group ∈ others, group.length = 3 ∧ group.all Char.isDigit = true))

theorem comma_not_mem_of_isDigit {ds : List Char} (digits : ∀ d ∈ ds, d.isDigit = true) :
    ',' ∉ ds := fun h =>
  absurd (digits ',' h) (by decide)

/-- Past a comma a new group begins. -/
theorem splitOn_groupDigits_of_boundary {d e : Char} {ds : List Char} (other : d ≠ ',')
    (full : (ds.length + 1) % 3 = 0) :
    splitOn ',' (groupDigits (d :: e :: ds)) = [d] :: splitOn ',' (groupDigits (e :: ds)) := by
  rw [groupDigits, if_pos ⟨full, List.cons_ne_nil e ds⟩, splitOn, if_neg other, splitOn, if_pos rfl]

/-- Within a group a digit goes to the front of the first one behind it. -/
theorem splitOn_groupDigits_of_within {d e : Char} {ds first : List Char}
    {others : List (List Char)} (other : d ≠ ',') (short : (ds.length + 1) % 3 ≠ 0)
    (split : splitOn ',' (groupDigits (e :: ds)) = first :: others) :
    splitOn ',' (groupDigits (d :: e :: ds)) = (d :: first) :: others := by
  rw [groupDigits, if_neg fun h => short h.1, splitOn, if_neg other, split]

/-- The groups of some digits: the first is as long as the digits make it, by threes from the
end. -/
theorem splitOn_groupDigits {d : Char} {ds : List Char} (digits : ∀ c ∈ d :: ds, c.isDigit = true) :
    ∃ first others, splitOn ',' (groupDigits (d :: ds)) = first :: others ∧
      first.length = ds.length % 3 + 1 ∧
      first.all Char.isDigit = true ∧ ∀ group ∈ others, group.length = 3 ∧
      group.all Char.isDigit = true := by
  induction ds generalizing d with
  | nil =>
    have other : d ≠ ',' := fun h => comma_not_mem_of_isDigit digits (h ▸ List.mem_cons_self)
    refine ⟨[d], [], ?_, rfl, by simpa using digits, by simp⟩
    simp [groupDigits, splitOn, other]
  | cons e ds ih =>
    have other : d ≠ ',' := fun h => comma_not_mem_of_isDigit digits (h ▸ List.mem_cons_self)
    obtain ⟨digit, digits⟩ := List.forall_mem_cons.1 digits
    obtain ⟨first, others, split, width, figures, threes⟩ := ih digits
    by_cases full : (ds.length + 1) % 3 = 0
    · refine ⟨[d], first :: others, ?_, ?_, by simpa using digit, ?_⟩
      · rw [splitOn_groupDigits_of_boundary other full, split]
      · simp [full]
      · exact List.forall_mem_cons.2 ⟨⟨by omega, figures⟩, threes⟩
    · refine ⟨d :: first, others, splitOn_groupDigits_of_within other full split, ?_, ?_, threes⟩
      · rw [List.length_cons, List.length_cons, width]
        omega
      · rw [List.all_cons, digit, figures]
        rfl

theorem isDigit_of_mem_toDigits {n : Nat} : ∀ c ∈ Nat.toDigits 10 n, c.isDigit = true := fun _ h =>
  Nat.isDigit_of_mem_toDigits (by decide) (by decide) h

/-- The digits of a count can be read off its text. -/
theorem filter_formatNumber (n : Nat) :
    (formatNumber n).toList.filter (· ≠ ',') = Nat.toDigits 10 n := by
  rw [formatNumber, String.toList_ofList]
  exact groupDigits_filter _ (comma_not_mem_of_isDigit isDigit_of_mem_toDigits)

theorem grouped_formatNumber (n : Nat) : Grouped (splitOn ',' (formatNumber n).toList) := by
  rw [formatNumber, String.toList_ofList]
  obtain ⟨d, ds, number⟩ := List.exists_cons_of_ne_nil (Nat.toDigits_ne_nil (b := 10) (n := n))
  rw [number]
  obtain ⟨first, others, split, width, figures, threes⟩ :=
    splitOn_groupDigits (number ▸ isDigit_of_mem_toDigits : ∀ c ∈ d :: ds, c.isDigit = true)
  rw [split]
  exact ⟨⟨by omega, by omega, figures⟩, threes⟩

theorem formatNumber_inj {n m : Nat} (same : formatNumber n = formatNumber m) : n = m := by
  have digits : Nat.toDigits 10 n = Nat.toDigits 10 m := by
    rw [← filter_formatNumber, same, filter_formatNumber]
  calc n = Nat.ofDigitChars 10 (Nat.toDigits 10 n) 0 := Nat.ofDigitChars_ten_toDigits.symm
    _ = Nat.ofDigitChars 10 (Nat.toDigits 10 m) 0 := by rw [digits]
    _ = m := Nat.ofDigitChars_ten_toDigits

/-- **A count in groups is the count.** Without the commas it is the number in plain digits; between
the commas stand a first group of one to three digits and then groups of three; and no other count
is printed like it. -/
theorem formatNumber_grouped (n : Nat) :
    String.ofList ((formatNumber n).toList.filter (· ≠ ',')) = toString n ∧
    Grouped (splitOn ',' (formatNumber n).toList) ∧
    ∀ m, formatNumber m = formatNumber n ↔ m = n := by
  refine ⟨?_, grouped_formatNumber n, fun m => ⟨formatNumber_inj, congrArg formatNumber⟩⟩
  rw [filter_formatNumber]
  rfl

example : formatNumber 1234567 = "1,234,567" := by decide

example : ¬Grouped (splitOn ',' "1,23".toList) ∧ ¬Grouped (splitOn ',' ",123".toList) := by decide

end Reindex
