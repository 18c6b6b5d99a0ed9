import Reindex.Url.Percent

/-!
# Percent encoding can be undone

A text in which percent signs are encoded as well decodes to its own UTF-8 bytes, so that two texts
that are encoded alike are the same text.

Main statements: `percentDecode_percentEncode`, and `percentEncode_injective`, which follows from
it.
-/

namespace Reindex.Url

theorem hexValue?_upperHexDigit {n : Nat} (h : n < 16) :
    Text.hexValue? (upperHexDigit n) = some n :=
  (by decide : ∀ d : Fin 16, Text.hexValue? (upperHexDigit d.val) = some d.val) ⟨n, h⟩

theorem upperHexDigit_ne_slash {n : Nat} (h : n < 16) : upperHexDigit n ≠ '/' :=
  (by decide : ∀ d : Fin 16, upperHexDigit d.val ≠ '/') ⟨n, h⟩

/-! ## Decoding what was encoded -/

theorem percentDecode_encodeByte (b : UInt8) (rest : List Char) :
    percentDecode (encodeByte b ++ rest) = b :: percentDecode rest := by
  have small : b.toNat < 256 := b.toNat_lt
  have high := hexValue?_upperHexDigit (n := b.toNat / 16) (by omega)
  have low := hexValue?_upperHexDigit (n := b.toNat % 16) (by omega)
  have whole : 16 * (b.toNat / 16) + b.toNat % 16 = b.toNat := by omega
  simp only [encodeByte, List.cons_append, List.nil_append, percentDecode, high, low, whole,
    UInt8.ofNat_toNat]

theorem percentDecode_encodeBytes (bytes : List UInt8) (rest : List Char) :
    percentDecode (bytes.flatMap encodeByte ++ rest) = bytes ++ percentDecode rest := by
  induction bytes with
  | nil => rfl
  | cons b bytes ih => rw [List.flatMap_cons, List.append_assoc, percentDecode_encodeByte, ih,
    List.cons_append]

theorem percentDecode_cons {c : Char} (h : c ≠ '%') (rest : List Char) :
    percentDecode (c :: rest) = String.utf8EncodeChar c ++ percentDecode rest := by
  rw [percentDecode]
  intro a b rest percent
  exact absurd percent h

variable {inSet : Char → Bool}

theorem percentEncode_cons (c : Char) (cs : List Char) :
    percentEncode inSet (c :: cs) =
      (if c.toNat < 0x80 && !inSet c then [c] else (String.utf8EncodeChar c).flatMap encodeByte) ++
        percentEncode inSet cs := rfl

/-- What is encoded decodes to its bytes, unless a percent sign was left as it is. -/
theorem percentDecode_percentEncode (percent : inSet '%' = true) (cs rest : List Char) :
    percentDecode (percentEncode inSet cs ++ rest) =
      cs.flatMap String.utf8EncodeChar ++ percentDecode rest := by
  induction cs with
  | nil => rfl
  | cons c cs ih =>
    rw [percentEncode_cons, List.append_assoc, List.flatMap_cons, List.append_assoc, ← ih]
    split
    · next left =>
      have plain : c ≠ '%' := by
        rintro rfl
        simp [percent] at left
      exact percentDecode_cons plain _
    · exact percentDecode_encodeBytes _ _

theorem decode_percentEncode (percent : inSet '%' = true) (cs : List Char) :
    percentDecode (percentEncode inSet cs) = cs.flatMap String.utf8EncodeChar := by
  simpa [percentDecode] using percentDecode_percentEncode percent cs []

/-! ## Injectivity -/

/-- A text is known by its UTF-8 bytes. -/
theorem eq_of_utf8_eq {cs ds : List Char}
    (h : cs.flatMap String.utf8EncodeChar = ds.flatMap String.utf8EncodeChar) : cs = ds := by
  have encoded (es : List Char) :
      (String.ofList es).toByteArray = (es.flatMap String.utf8EncodeChar).toByteArray := rfl
  have same : String.ofList cs = String.ofList ds :=
    String.toByteArray_inj.1 (by rw [encoded, encoded, h])
  exact String.ofList_injective same

theorem percentEncode_injective (percent : inSet '%' = true) {cs ds : List Char}
    (h : percentEncode inSet cs = percentEncode inSet ds) : cs = ds := by
  refine eq_of_utf8_eq ?_
  rw [← decode_percentEncode percent cs, h, decode_percentEncode percent ds]

/-! ## What does not come out -/

theorem slash_not_mem_percentEncode (slash : inSet '/' = true) (cs : List Char) :
    '/' ∉ percentEncode inSet cs := by
  intro h
  obtain ⟨c, -, h⟩ := List.mem_flatMap.1 h
  split at h
  · next left =>
    cases List.mem_singleton.1 h
    simp [slash] at left
  · obtain ⟨b, -, h⟩ := List.mem_flatMap.1 h
    have small : b.toNat < 256 := b.toNat_lt
    have high := upperHexDigit_ne_slash (n := b.toNat / 16) (by omega)
    have low := upperHexDigit_ne_slash (n := b.toNat % 16) (by omega)
    simp only [encodeByte, List.mem_cons, List.not_mem_nil, or_false] at h
    rcases h with h | h | h
    · exact absurd h (by decide)
    · exact high h.symm
    · exact low h.symm

end Reindex.Url
