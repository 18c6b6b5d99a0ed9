/-!
# Digits

Decimal numbers filled up with zeros, and the hexadecimal digits that several formats write.

Main statements: `length_paddedDigits` says how wide a filled number is, and `hexValue?_digitChar`
that digits read back.
-/

namespace Reindex.Text

/-- Decimal digits with zeros in front up to a width. -/
def paddedDigits (width n : Nat) : List Char :=
  let ds := Nat.toDigits 10 n
  List.replicate (width - ds.length) '0' ++ ds

theorem length_paddedDigits (width n : Nat) :
    (paddedDigits width n).length = max width (Nat.toDigits 10 n).length := by
  simp only [paddedDigits, List.length_append, List.length_replicate]
  omega

/-- What a hexadecimal digit is worth, in either case. -/
def hexValue? (c : Char) : Option Nat :=
  if '0' ≤ c ∧ c ≤ '9' then some (c.toNat - '0'.toNat)
  else if 'a' ≤ c ∧ c ≤ 'f' then some (c.toNat - 'a'.toNat + 10)
  else if 'A' ≤ c ∧ c ≤ 'F' then some (c.toNat - 'A'.toNat + 10)
  else none

theorem hexValue?_digitChar {d : Nat} (h : d < 16) : hexValue? (Nat.digitChar d) = some d :=
  (by decide : ∀ d : Fin 16, hexValue? (Nat.digitChar d) = some d.val) ⟨d, h⟩

/-- The character that hexadecimal digits number. -/
def codePoint? (digits : List Char) : Option Char := do
  let n ← digits.foldlM (fun n c => (hexValue? c).map (16 * n + ·)) 0
  if n.isValidChar then some (Char.ofNat n) else none

end Reindex.Text
