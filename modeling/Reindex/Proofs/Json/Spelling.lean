import Reindex.Proofs.Json.Extent
import Reindex.Proofs.Json.Grammar

/-!
# How a string may be spelled

A character stands between quotes as itself or as an escape: a short one, its number in four
hexadecimal digits, or the numbers of two surrogates. A surrogate on its own stands for no
character. Reading a string takes the spellings, and gives back the text that is spelled.

Main statement: `Json.Reader.stringBody_eq_ok_iff`.
-/

namespace Reindex.Json

open Reader (hex4? shortEscape? isHighSurrogate isLowSurrogate)

/-- What stands between quotes, and the text that it spells. -/
inductive Spells : List Char → List Char → Prop
  | nil : Spells [] []
  | plain {c : Char} {cs text : List Char} (quote : c ≠ '"') (backslash : c ≠ '\\')
      (visible : ¬ c.toNat < 0x20)
    (rest : Spells cs text) : Spells (c :: cs) (c :: text)
  | short {e c : Char} {cs text : List Char} (escape : shortEscape? e = some c)
      (rest : Spells cs text) :
    Spells ('\\' :: e :: cs) (c :: text)
  | unit {h₁ h₂ h₃ h₄ c : Char} {cs text : List Char} (escape : hex4? h₁ h₂ h₃ h₄ = some c.toNat)
      (rest : Spells cs text) :
    Spells ('\\' :: 'u' :: h₁ :: h₂ :: h₃ :: h₄ :: cs) (c :: text)
  | pair {h₁ h₂ h₃ h₄ l₁ l₂ l₃ l₄ c : Char} {high low : Nat} {cs text : List Char}
      (first : hex4? h₁ h₂ h₃ h₄ = some high) (second : hex4? l₁ l₂ l₃ l₄ = some low)
      (leads : isHighSurrogate high = true) (follows : isLowSurrogate low = true)
      (whole : c.toNat = (high - 0xD800) * 0x400 + (low - 0xDC00) + 0x10000)
      (rest : Spells cs text) :
    Spells ('\\' :: 'u' :: h₁ :: h₂ :: h₃ :: h₄ :: '\\' :: 'u' :: l₁ :: l₂ :: l₃ :: l₄ :: cs)
      (c :: text)

theorem Spells.content {cs text : List Char} (h : Spells cs text) : Content cs := by
  induction h with
  | nil => exact .nil
  | plain quote backslash visible _ ih => exact .plain quote backslash visible ih
  | short escape _ ih => exact .short escape ih
  | unit escape _ ih => exact .hex escape ih
  | pair first second _ _ _ _ ih => exact .hex first (.hex second ih)

namespace Reader

/-! ## Characters by number -/

theorem hexValue?_lt {c : Char} {n : Nat} (h : Text.hexValue? c = some n) : n < 16 := by
  have within (lower upper : Char) (between : lower ≤ c ∧ c ≤ upper) : lower.toNat ≤ c.toNat ∧
    c.toNat ≤ upper.toNat := between
  unfold Text.hexValue? at h
  split at h
  · rename_i between
    obtain ⟨lower, upper⟩ := within '0' '9' between
    cases h
    exact Nat.lt_of_le_of_lt (Nat.sub_le_sub_right upper _) (by decide)
  split at h
  · rename_i between
    obtain ⟨lower, upper⟩ := within 'a' 'f' between
    cases h
    exact Nat.lt_of_le_of_lt (Nat.add_le_add_right (Nat.sub_le_sub_right upper _) 10) (by decide)
  split at h
  · rename_i between
    obtain ⟨lower, upper⟩ := within 'A' 'F' between
    cases h
    exact Nat.lt_of_le_of_lt (Nat.add_le_add_right (Nat.sub_le_sub_right upper _) 10) (by decide)
  · cases h

theorem hex4?_lt {a b c d : Char} {n : Nat} (h : hex4? a b c d = some n) : n < 0x10000 := by
  unfold hex4? at h
  obtain ⟨w, hw, h⟩ := Option.bind_eq_some_iff.1 h
  obtain ⟨x, hx, h⟩ := Option.bind_eq_some_iff.1 h
  obtain ⟨y, hy, h⟩ := Option.bind_eq_some_iff.1 h
  obtain ⟨z, hz, h⟩ := Option.bind_eq_some_iff.1 h
  cases h
  have bw := hexValue?_lt hw
  have bx := hexValue?_lt hx
  have bY := hexValue?_lt hy
  have bz := hexValue?_lt hz
  omega

theorem toNat_ofNat {n : Nat} (valid : n.isValidChar) : (Char.ofNat n).toNat = n := by
  rw [Char.ofNat, dif_pos valid]
  rfl

theorem isLowSurrogate_iff {n : Nat} : isLowSurrogate n = true ↔ 0xDC00 ≤ n ∧ n ≤ 0xDFFF := by
  simp [isLowSurrogate]

theorem isHighSurrogate_iff {n : Nat} : isHighSurrogate n = true ↔ 0xD800 ≤ n ∧ n ≤ 0xDBFF := by
  simp [isHighSurrogate]

/-- The number of a character is not that of a surrogate. -/
theorem not_surrogate_toNat (c : Char) :
    isLowSurrogate c.toNat = false ∧ isHighSurrogate c.toNat = false := by
  rw [Bool.eq_false_iff, Bool.eq_false_iff, ne_eq, ne_eq, isLowSurrogate_iff, isHighSurrogate_iff]
  have valid : c.toNat < 0xD800 ∨ 0xDFFF < c.toNat ∧ c.toNat < 0x110000 := c.valid
  omega

/-! ## Escapes -/

theorem stringBody_unit (acc : List Char) {a b c d e : Char} (escape : hex4? a b c d = some e.toNat)
    (rest : List Char) :
    stringBody acc ('\\' :: 'u' :: a :: b :: c :: d :: rest) = stringBody (e :: acc) rest := by
  obtain ⟨low, high⟩ := not_surrogate_toNat e
  rw [stringBody, escape]
  simp [low, high]

theorem stringBody_pair (acc : List Char) {h₁ h₂ h₃ h₄ l₁ l₂ l₃ l₄ c : Char} {high low : Nat}
    (first : hex4? h₁ h₂ h₃ h₄ = some high) (second : hex4? l₁ l₂ l₃ l₄ = some low)
    (leads : isHighSurrogate high = true) (follows : isLowSurrogate low = true)
    (whole : c.toNat = (high - 0xD800) * 0x400 + (low - 0xDC00) + 0x10000) (rest : List Char) :
    stringBody acc ('\\' :: 'u' :: h₁ :: h₂ :: h₃ :: h₄ :: '\\' :: 'u' :: l₁ :: l₂ :: l₃ ::
      l₄ :: rest) =
      stringBody (c :: acc) rest := by
  have alone : isLowSurrogate high = false := by
    rw [isHighSurrogate_iff] at leads
    rw [Bool.eq_false_iff, ne_eq, isLowSurrogate_iff]
    omega
  rw [stringBody, first]
  simp [alone, leads, second, follows, ← whole]

theorem stringBody_append {cs text : List Char} (h : Spells cs text) (acc rest : List Char) :
    stringBody acc (cs ++ '"' :: rest) = .ok (acc.reverse ++ text, rest) := by
  induction h generalizing acc with
  | nil => simp [stringBody]
  | plain quote backslash visible _ ih =>
    rw [List.cons_append, stringBody_plain acc quote backslash visible, ih]
    simp
  | short escape _ ih =>
    rw [List.cons_append, List.cons_append, stringBody_short acc escape, ih]
    simp
  | unit escape _ ih =>
    simp only [List.cons_append]
    rw [stringBody_unit acc escape, ih]
    simp
  | pair first second leads follows whole _ ih =>
    simp only [List.cons_append]
    rw [stringBody_pair acc first second leads follows whole, ih]
    simp

theorem spells_of_stringBody {acc cs s rest : List Char} (h : stringBody acc cs = .ok (s, rest)) :
    ∃ content text, Spells content text ∧ cs = content ++ '"' :: rest ∧
      s = acc.reverse ++ text := by
  fun_induction stringBody acc cs with
  | case2 =>
    cases h
    exact ⟨[], [], .nil, rfl, (List.append_nil _).symm⟩
  | case6 acc a b c d more n hex low high ih =>
    obtain ⟨content, text, spelled, rfl, rfl⟩ := ih h
    have valid : n.isValidChar := by
      have small := hex4?_lt hex
      rw [isLowSurrogate_iff] at low
      rw [Bool.not_eq_true', Bool.eq_false_iff, ne_eq, isHighSurrogate_iff] at high
      unfold Nat.isValidChar
      omega
    exact ⟨_, _, .unit (by rw [hex, toNat_ofNat valid]) spelled, rfl, by simp⟩
  | case10 acc a b c d n hex low high e f g k last m second follows ih =>
    obtain ⟨content, text, spelled, rfl, rfl⟩ := ih h
    have leads : isHighSurrogate n = true := by simpa using high
    have valid : ((n - 0xD800) * 0x400 + (m - 0xDC00) + 0x10000).isValidChar := by
      have high := isHighSurrogate_iff.1 leads
      have low := isLowSurrogate_iff.1 follows
      unfold Nat.isValidChar
      omega
    exact ⟨_, _, .pair hex second leads follows (toNat_ofNat valid) spelled, rfl, by simp⟩
  | case16 acc c more long few e short ih =>
    obtain ⟨content, text, spelled, rfl, rfl⟩ := ih h
    exact ⟨_, _, .short short spelled, rfl, by simp⟩
  | case19 acc c more quote single long few short visible ih =>
    obtain ⟨content, text, spelled, rfl, rfl⟩ := ih h
    have backslash : c ≠ '\\' := fun is => by
      cases content with
      | nil => exact short '"' rest is rfl
      | cons d more => exact short d _ is rfl
    exact ⟨_, _, .plain quote backslash visible spelled, rfl, by simp⟩
  | case4 | case9 | case12 | case15 => exact absurd h (Scan.badHex_ne_ok _ _)
  | _ => cases h

/-- **A string is read as the text that it spells.** -/
theorem stringBody_eq_ok_iff {cs s rest : List Char} :
    stringBody [] cs = .ok (s, rest) ↔ ∃ content, Spells content s ∧
    cs = content ++ '"' :: rest := by
  constructor
  · intro h
    obtain ⟨content, text, spelled, same, rfl⟩ := spells_of_stringBody h
    exact ⟨content, spelled, same⟩
  · rintro ⟨content, spelled, rfl⟩
    exact stringBody_append spelled [] rest

end Reader

theorem spells_iff {content text : List Char} :
    Spells content text ↔ (Reader.stringBody [] (content ++ ['"'])).toOption = some (text, []) := by
  constructor
  · intro spelled
    rw [Reader.stringBody_append spelled]
    rfl
  · intro h
    cases read : Reader.stringBody [] (content ++ ['"']) with
    | error stop =>
      rw [read] at h
      cases h
    | ok taken =>
      rw [read] at h
      cases h
      obtain ⟨content', spelled, same⟩ := Reader.stringBody_eq_ok_iff.1 read
      exact List.append_cancel_right same ▸ spelled

instance (content text : List Char) : Decidable (Spells content text) :=
  decidable_of_iff _ spells_iff.symm

end Reindex.Json
