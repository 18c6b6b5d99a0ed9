import Reindex.Json.Scan

/-!
# What the scan of a value goes past

The scan takes characters off the front of a text and gives back the rest unchanged, so that the
text of a value and what follows are the text that was scanned, but for the spaces at its front.
Where a string is read, the scan of it ends at the same place.

Main statements: `Json.Scan.value_suffix`, `Json.Scan.raw_append` and
`Json.Scan.string_of_stringBody`.
-/

namespace Reindex.Json

namespace Reader

theorem skipSpaces_suffix (cs : List Char) : skipSpaces cs <:+ cs := List.dropWhile_suffix _

theorem suffix_of_skipSpaces (front : List Char) {cs rest : List Char}
    (h : skipSpaces cs = front ++ rest) : rest <:+ cs :=
  (List.suffix_append front rest).trans (h ▸ skipSpaces_suffix cs)

theorem skipSpaces_idem (cs : List Char) : skipSpaces (skipSpaces cs) = skipSpaces cs := by
  unfold skipSpaces
  induction cs with
  | nil => rfl
  | cons c cs ih => by_cases h : isSpace c <;> simp [List.dropWhile, h, ih]

end Reader

namespace Scan

open Reader (isDigit skipSpaces hex4? shortEscape? stringBody suffix_of_skipSpaces
  skipSpaces_suffix)

/-! ## The rest is what follows -/

section Suffix

variable {cs rest : List Char}

theorem string_suffix (h : string cs = some rest) : rest <:+ cs := by
  fun_induction string cs with
  | case1 => cases h
  | case2 => cases h; exact List.suffix_cons _ _
  | case3 a b c d more hex ih =>
    exact (ih h).trans (List.suffix_append ['\\', 'u', a, b, c, d] more)
  | case4 => cases h
  | case5 c more other short ih => exact (ih h).trans (List.suffix_append ['\\', c] more)
  | case6 => cases h
  | case7 => cases h
  | case8 c more quote hex short plain ih => exact (ih h).trans (List.suffix_cons c more)

theorem digits_suffix (h : digits cs = some rest) : rest <:+ cs := by
  unfold digits at h
  split at h
  · cases h
    exact List.dropWhile_suffix _
  · cases h

theorem exponent_suffix (h : exponent cs = some rest) : rest <:+ cs := by
  unfold exponent at h
  split at h
  · exact (digits_suffix h).trans (List.suffix_append ['e', '+'] _)
  · exact (digits_suffix h).trans (List.suffix_append ['E', '+'] _)
  · exact (digits_suffix h).trans (List.suffix_append ['e', '-'] _)
  · exact (digits_suffix h).trans (List.suffix_append ['E', '-'] _)
  · exact (digits_suffix h).trans (List.suffix_cons 'e' _)
  · exact (digits_suffix h).trans (List.suffix_cons 'E' _)
  · cases h
    exact List.suffix_refl _

theorem number_suffix (h : number cs = some rest) : rest <:+ cs := by
  unfold number at h
  obtain ⟨whole, past, h⟩ := Option.bind_eq_some_iff.1 h
  have front := digits_suffix past
  split at h
  · cases h
  · split at h
    · obtain ⟨fraction, point, h⟩ := Option.bind_eq_some_iff.1 h
      exact (((exponent_suffix h).trans (digits_suffix point)).trans
        (List.suffix_cons '.' _)).trans front
    · exact (exponent_suffix h).trans front

theorem word_suffix {ws : List Char} (h : word ws cs = some rest) : rest <:+ cs := by
  fun_induction word ws cs with
  | case1 cs => cases h; exact List.suffix_refl _
  | case2 ws c cs ih => exact (ih h).trans (List.suffix_cons c cs)
  | case3 => cases h
  | case4 => cases h

end Suffix

/-- **What the scan of a value gives back is the end of the text,** with the same for items and for
members. -/
theorem value_suffix (fuel : Nat) :
    (∀ {cs rest : List Char}, value fuel cs = some rest → rest <:+ cs) ∧
    (∀ {cs rest : List Char}, items fuel cs = some rest → rest <:+ cs) ∧
    ∀ {cs rest : List Char}, members fuel cs = some rest → rest <:+ cs := by
  induction fuel with
  | zero => exact ⟨fun h => (by cases h), fun h => (by cases h), fun h => (by cases h)⟩
  | succ fuel ih =>
    obtain ⟨ofValue, ofItems, ofMembers⟩ := ih
    refine ⟨fun {cs rest} h => ?_, fun {cs rest} h => ?_, fun {cs rest} h => ?_⟩
    · have within {c : Char} {more : List Char} (spaces : skipSpaces cs = c :: more) :
        more <:+ cs :=
        suffix_of_skipSpaces [c] spaces
      rw [value] at h
      split at h
      · cases h
      · rename_i spaces; exact (word_suffix h).trans (within spaces)
      · rename_i spaces; exact (word_suffix h).trans (within spaces)
      · rename_i spaces; exact (word_suffix h).trans (within spaces)
      · rename_i spaces; exact (number_suffix h).trans (within spaces)
      · rename_i spaces; exact (string_suffix h).trans (within spaces)
      · rename_i more spaces
        split at h
        · rename_i closed
          cases h
          exact (suffix_of_skipSpaces [']'] closed).trans (within spaces)
        · exact ((ofItems h).trans (skipSpaces_suffix more)).trans (within spaces)
      · rename_i more spaces
        split at h
        · rename_i closed
          cases h
          exact (suffix_of_skipSpaces ['\x7d'] closed).trans (within spaces)
        · exact ((ofMembers h).trans (skipSpaces_suffix more)).trans (within spaces)
      · exact (number_suffix h).trans (skipSpaces_suffix cs)
    · rw [items] at h
      obtain ⟨behind, item, h⟩ := Option.bind_eq_some_iff.1 h
      have past := ofValue item
      split at h
      · rename_i comma
        exact ((ofItems h).trans (suffix_of_skipSpaces [','] comma)).trans past
      · rename_i closed
        cases h
        exact (suffix_of_skipSpaces [']'] closed).trans past
      · cases h
    · rw [members] at h
      split at h
      · rename_i more quote
        obtain ⟨named, name, h⟩ := Option.bind_eq_some_iff.1 h
        have pastName := (string_suffix name).trans (suffix_of_skipSpaces ['"'] quote)
        split at h
        · rename_i colon
          obtain ⟨behind, held, h⟩ := Option.bind_eq_some_iff.1 h
          have past := ((ofValue held).trans (suffix_of_skipSpaces [':'] colon)).trans pastName
          split at h
          · rename_i comma
            exact ((ofMembers h).trans (suffix_of_skipSpaces [','] comma)).trans past
          · rename_i closed
            cases h
            exact (suffix_of_skipSpaces ['\x7d'] closed).trans past
          · cases h
        · cases h
      · cases h

/-! ## The text of a value -/

/-- **The text of a value and what follows** are what was scanned, but for the spaces in front. -/
theorem raw_append {cs text rest : List Char} (h : raw cs = some (text, rest)) :
    skipSpaces cs = text ++ rest := by
  obtain ⟨left, scanned, taken⟩ := Option.bind_eq_some_iff.1 h
  cases taken
  obtain ⟨front, whole⟩ := (value_suffix _).1 scanned
  rw [← whole, List.length_append, Nat.add_sub_cancel, List.take_left]

theorem raw_suffix {cs text rest : List Char} (h : raw cs = some (text, rest)) : rest <:+ cs :=
  suffix_of_skipSpaces text (raw_append h)

theorem raw_infix {cs text rest : List Char} (h : raw cs = some (text, rest)) : text <:+: cs :=
  List.IsInfix.trans ⟨[], rest, (raw_append h).symm⟩ (skipSpaces_suffix cs).isInfix

theorem value_skipSpaces (fuel : Nat) (cs : List Char) :
    value fuel (skipSpaces cs) = value fuel cs := by
  cases fuel with
  | zero => rfl
  | succ fuel => rw [value, value, Reader.skipSpaces_idem]

/-- What three levels are enough for has a text. -/
theorem exists_raw {cs rest : List Char} (h : ∀ fuel, value (fuel + 3) cs = some rest) :
    ∃ text, raw cs = some (text, rest) := by
  have visible : skipSpaces cs ≠ [] := fun blank => by
    have none := h 0
    rw [value, blank] at none
    cases none
  obtain ⟨fuel, enough⟩ : ∃ fuel, 2 * (skipSpaces cs).length + 2 = fuel + 3 :=
    ⟨2 * (skipSpaces cs).length - 1, by have := List.length_pos_iff.2 visible; omega⟩
  refine ⟨(skipSpaces cs).take ((skipSpaces cs).length - rest.length), ?_⟩
  unfold raw
  dsimp only
  rw [enough, value_skipSpaces, h fuel]
  rfl

/-! ## Strings -/

theorem string_hex {a b c d : Char} {n : Nat} (hex : hex4? a b c d = some n) (cs : List Char) :
    string ('\\' :: 'u' :: a :: b :: c :: d :: cs) = string cs := by
  rw [string, hex]
  rfl

theorem string_short {c e : Char} (short : shortEscape? c = some e) (cs : List Char) :
    string ('\\' :: c :: cs) = string cs := by
  rw [string, short]
  · rfl
  · intros
    subst c
    cases short

theorem badHex_ne_ok {α : Type} (cs : List Char) (a : α) : Reader.badHex cs ≠ .ok a := by
  unfold Reader.badHex
  split <;> exact fun h => by cases h

/-- **The scan of a string ends where the reading of it does.** -/
theorem string_of_stringBody {acc cs s rest : List Char} (h : stringBody acc cs = .ok (s, rest)) :
    string cs = some rest := by
  fun_induction stringBody acc cs with
  | case2 => cases h; rfl
  | case6 acc a b c d more n hex high low ih => rw [string_hex hex]; exact ih h
  | case10 acc a b c d n hex low high e f g k last m second pair ih =>
    rw [string_hex hex, string_hex second]
    exact ih h
  | case16 acc c more long few e short ih => rw [string_short short]; exact ih h
  | case19 acc c more quote single long few short visible ih =>
    have backslash : c ≠ '\\' := fun is => by
      cases more with
      | nil => exact single is rfl
      | cons d more => exact short d more is rfl
    rw [string, if_neg (not_or.2 ⟨backslash, visible⟩)]
    · exact ih h
    · exact quote
    all_goals
      intros
      exact backslash ‹_›
  | case4 | case9 | case12 | case15 => exact absurd h (badHex_ne_ok _ _)
  | _ => cases h

end Scan

end Reindex.Json
