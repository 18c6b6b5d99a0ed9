import Reindex.Proofs.Json.Printed

/-!
# Numbers are read without regard to what follows

Where reading a number stops depends on the number alone, if what follows does not go on with it. So
the text of a number is read as a whole, and what it is read as in one place it is read as in every
other. It need not be the number that was written.

Main statements: `Json.Reader.steady_number` and `Json.Reader.exact_number`.
-/

namespace Reindex.Json.Reader

theorem not_isDigit_of_ends {c : Char} {rest : List Char} (ends : Ends (c :: rest)) :
    isDigit c = false :=
  (Bool.or_eq_false_iff.1 (ends_cons.1 ends)).1

theorem digits_append (cs : List Char) {rest : List Char} (ends : Ends rest) :
    (cs ++ rest).takeWhile isDigit = cs.takeWhile isDigit ∧
      (cs ++ rest).dropWhile isDigit = cs.dropWhile isDigit ++ rest := by
  induction cs with
  | nil =>
    cases rest with
    | nil => exact ⟨rfl, rfl⟩
    | cons c rest => simp [not_isDigit_of_ends ends]
  | cons c cs ih => cases digit : isDigit c <;> simp [digit, ih]

/-- Reading a number from the front of `cs`, with anything behind `cs` that ends it: it fails
whatever that is, or it stops at one place in `cs` whatever that is. -/
def Steady (cs : List Char) (read : List Char → Except Stop (Number × List Char)) : Prop :=
  (∀ rest, Ends rest → ∀ r, read rest ≠ .ok r) ∨
    ∃ n left, left <:+ cs ∧ ∀ rest, Ends rest → read rest = .ok (n, left ++ rest)

theorem Steady.fails {cs : List Char} {read : List Char → Except Stop (Number × List Char)}
    (h : ∀ rest, Ends rest → ∃ stop, read rest = .error stop) : Steady cs read :=
  .inl fun rest ends r given => by
    obtain ⟨stop, failed⟩ := h rest ends
    rw [failed] at given
    cases given

theorem Steady.of_suffix {cs more : List Char} {read : List Char → Except Stop (Number × List Char)}
    (h : Steady more read) (within : more <:+ cs) : Steady cs read :=
  h.imp id fun ⟨n, left, suffix, given⟩ => ⟨n, left, suffix.trans within, given⟩

theorem Steady.congr {cs : List Char} {read read' : List Char → Except Stop (Number × List Char)}
    (h : Steady cs read') (same : ∀ rest, Ends rest → read rest = read' rest) : Steady cs read :=
  h.imp (fun fails rest ends r given => fails rest ends r (same rest ends ▸ given))
    fun ⟨n, left, suffix, given⟩ =>
      ⟨n, left, suffix, fun rest ends => (same rest ends).trans (given rest ends)⟩

section

variable (negative : Bool) (digits : Nat) (power : Int) (cs : List Char)

theorem steady_fromParts : Steady cs fun rest => fromParts negative digits power (cs ++ rest) := by
  unfold fromParts
  cases scalePower 8 (.ofNat digits) power with
  | none => exact .fails fun rest _ => ⟨_, rfl⟩
  | some x => exact .inr ⟨_, cs, List.suffix_refl cs, fun rest _ => rfl⟩

/-- A number after the sign of its exponent. -/
def afterSign (down : Prop) [Decidable down] (cs : List Char) : Except Stop (Number × List Char) :=
  match cs with
  | [] => atRead .eofValue []
  | c :: _ =>
    if isDigit c then
      match exponentDigits 0 (cs.takeWhile isDigit) with
      | (e, none) => fromParts negative digits (if down then power - e else power + e)
        (cs.dropWhile isDigit)
      | (_, some left) =>
        if digits ≠ 0 ∧ !down then atRead .numberOutOfRange (left ++ cs.dropWhile isDigit)
        else .ok (.binary (.zero negative), cs.dropWhile isDigit)
    else atNext .invalidNumber cs

theorem exponentPart_eq : exponentPart negative digits power cs =
    afterSign negative digits power (cs.head? = some '-')
      (if cs.head? = some '+' ∨ cs.head? = some '-' then cs.drop 1 else cs) := by
  unfold exponentPart afterSign
  rfl

theorem steady_afterSign (down : Prop) [Decidable down] :
    Steady cs fun rest => afterSign negative digits power down (cs ++ rest) := by
  cases cs with
  | nil =>
    refine .fails fun rest ends => ?_
    cases rest with
    | nil => exact ⟨_, rfl⟩
    | cons c rest =>
      exact ⟨_, by simp only [List.nil_append, afterSign, not_isDigit_of_ends ends]; rfl⟩
  | cons c cs =>
    cases digit : isDigit c with
    | false => exact .fails fun rest _ =>
      ⟨_, by simp only [List.cons_append, afterSign, digit]; rfl⟩
    | true =>
      have within : (c :: cs).dropWhile isDigit <:+ c :: cs := List.dropWhile_suffix _
      have parts (rest : List Char) (ends : Ends rest) : afterSign negative digits power down
        (c :: cs ++ rest) =
          match exponentDigits 0 ((c :: cs).takeWhile isDigit) with
          | (e, none) =>
            fromParts negative digits (if down then power - e else power + e)
              ((c :: cs).dropWhile isDigit ++ rest)
          | (_, some left) =>
            if digits ≠ 0 ∧
              !down then atRead .numberOutOfRange (left ++ ((c :: cs).dropWhile isDigit ++ rest))
            else .ok (.binary (.zero negative), (c :: cs).dropWhile isDigit ++ rest) := by
        obtain ⟨taken, dropped⟩ := digits_append (c :: cs) ends
        rw [List.cons_append] at taken dropped
        rw [List.cons_append, afterSign, if_pos digit, taken, dropped]
      refine Steady.congr ?_ parts
      cases exponentDigits 0 ((c :: cs).takeWhile isDigit) with
      | mk e left =>
        cases left with
        | none => exact (steady_fromParts negative digits _ _).of_suffix within
        | some left =>
          dsimp only
          split
          · exact .fails fun rest _ => ⟨_, rfl⟩
          · exact .inr ⟨_, _, within, fun rest _ => rfl⟩

theorem steady_exponentPart :
    Steady cs fun rest => exponentPart negative digits power (cs ++ rest) := by
  simp only [exponentPart_eq]
  cases cs with
  | nil =>
    refine .fails fun rest ends => ?_
    cases rest with
    | nil => exact ⟨_, rfl⟩
    | cons c rest =>
      have unsigned : ¬ (some c = some '+' ∨ some c = some '-') := by
        rintro (h | h) <;> cases h <;> cases ends_cons.1 ends
      exact ⟨_, by
        rw [List.nil_append, List.head?_cons, if_neg unsigned, afterSign,
          if_neg (by simp [not_isDigit_of_ends ends])]
        rfl⟩
  | cons c cs =>
    simp only [List.cons_append, List.head?_cons, List.drop_succ_cons, List.drop_zero]
    split
    · exact (steady_afterSign negative digits power cs _).of_suffix (List.suffix_cons c cs)
    · exact steady_afterSign negative digits power (c :: cs) _

theorem exponentOrEnd_of_plain {rest : List Char} (h : ∀ c ∈ rest.head?, c ≠ 'e' ∧ c ≠ 'E') :
    exponentOrEnd negative digits power rest = fromParts negative digits power rest := by
  unfold exponentOrEnd
  split
  · exact absurd rfl (h 'e' rfl).1
  · exact absurd rfl (h 'E' rfl).2
  · rfl

theorem steady_exponentOrEnd :
    Steady cs fun rest => exponentOrEnd negative digits power (cs ++ rest) := by
  have plain (h : ∀ rest, Ends rest → ∀ c ∈ (cs ++ rest).head?, c ≠ 'e' ∧ c ≠ 'E') :
      Steady cs fun rest => exponentOrEnd negative digits power (cs ++ rest) :=
    (steady_fromParts negative digits power cs).congr fun rest ends =>
      exponentOrEnd_of_plain negative digits power (h rest ends)
  cases cs with
  | nil =>
    refine plain fun rest ends c hc => ?_
    constructor <;> rintro rfl <;> cases ends _ hc
  | cons c cs =>
    by_cases exponent : c = 'e' ∨ c = 'E'
    · have behind : ∀ rest, exponentOrEnd negative digits power (c :: cs ++ rest) =
          exponentPart negative digits power (cs ++ rest) := by
        rcases exponent with rfl | rfl <;> exact fun rest => rfl
      exact ((steady_exponentPart negative digits power cs).of_suffix (List.suffix_cons c cs)).congr
        fun rest _ => behind rest
    · refine plain fun rest _ d hd => ?_
      cases hd
      exact not_or.1 exponent

theorem steady_fractionPart :
    Steady cs fun rest => fractionPart negative digits power (cs ++ rest) := by
  have within : cs.dropWhile isDigit <:+ cs := List.dropWhile_suffix _
  cases digitless : (cs.takeWhile isDigit).isEmpty with
  | true =>
    refine .fails fun rest ends => ?_
    unfold fractionPart
    obtain ⟨taken, -⟩ := digits_append cs ends
    dsimp only
    rw [taken, if_pos digitless]
    split <;> exact ⟨_, rfl⟩
  | false =>
    have read := steady_exponentOrEnd negative (significand digits (cs.takeWhile isDigit)).1
      (power - (significand digits (cs.takeWhile isDigit)).2.1) (cs.dropWhile isDigit)
    refine (read.of_suffix within).congr fun rest ends => ?_
    unfold fractionPart
    obtain ⟨taken, dropped⟩ := digits_append cs ends
    dsimp only
    rw [taken, dropped, if_neg (by simp [digitless])]

/-- A number after the digits in front of its point, of which some may not have fitted. -/
def afterWhole (fitted : Nat × Nat × Nat) (cs : List Char) : Except Stop (Number × List Char) :=
  match cs with
  | '.' :: rest => fractionPart negative fitted.1 fitted.2.2 rest
  | 'e' :: rest | 'E' :: rest => exponentPart negative fitted.1 fitted.2.2 rest
  | rest =>
    if fitted.2.2 = 0 then .ok (integer negative fitted.1, rest)
    else fromParts negative fitted.1 fitted.2.2 rest

theorem afterWhole_of_plain (fitted : Nat × Nat × Nat) {rest : List Char}
    (h : ∀ c ∈ rest.head?, c ≠ '.' ∧ c ≠ 'e' ∧ c ≠ 'E') :
    afterWhole negative fitted rest =
      if fitted.2.2 = 0 then .ok (integer negative fitted.1, rest)
      else fromParts negative fitted.1 fitted.2.2 rest := by
  unfold afterWhole
  split
  · exact absurd rfl (h '.' rfl).1
  · exact absurd rfl (h 'e' rfl).2.1
  · exact absurd rfl (h 'E' rfl).2.2
  · rfl

theorem steady_afterWhole (fitted : Nat × Nat × Nat) :
    Steady cs fun rest => afterWhole negative fitted (cs ++ rest) := by
  have plain (h : ∀ rest, Ends rest → ∀ c ∈ (cs ++ rest).head?, c ≠ '.' ∧ c ≠ 'e' ∧ c ≠ 'E') :
      Steady cs fun rest => afterWhole negative fitted (cs ++ rest) := by
    refine Steady.congr ?_ fun rest ends => afterWhole_of_plain negative fitted (h rest ends)
    split
    · exact .inr ⟨_, cs, List.suffix_refl cs, fun rest _ => rfl⟩
    · exact steady_fromParts negative fitted.1 fitted.2.2 cs
  cases cs with
  | nil =>
    refine plain fun rest ends c hc => ⟨?_, ?_, ?_⟩ <;> rintro rfl <;> cases ends _ hc
  | cons c cs =>
    have within := List.suffix_cons c cs
    by_cases point : c = '.'
    · subst point
      exact ((steady_fractionPart negative fitted.1 fitted.2.2 cs).of_suffix within).congr fun rest
        _ => rfl
    by_cases exponent : c = 'e' ∨ c = 'E'
    · have behind : ∀ rest, afterWhole negative fitted (c :: cs ++ rest) =
          exponentPart negative fitted.1 fitted.2.2 (cs ++ rest) := by
        rcases exponent with rfl | rfl <;> exact fun rest => rfl
      exact ((steady_exponentPart negative fitted.1 fitted.2.2 cs).of_suffix within).congr fun rest
        _ => behind rest
    · refine plain fun rest _ d hd => ?_
      cases hd
      exact ⟨point, not_or.1 exponent⟩

theorem number_of_digit {c : Char} (digit : isDigit c = true) : number negative (c :: cs) =
    if c = '0' ∧ (cs.head?.map isDigit).getD false then atNext .invalidNumber cs
    else afterWhole negative (significand 0 ((c :: cs).takeWhile isDigit))
      ((c :: cs).dropWhile isDigit) := by
  rw [number, digit]
  rfl

theorem steady_number : Steady cs fun rest => number negative (cs ++ rest) := by
  cases cs with
  | nil =>
    refine .fails fun rest ends => ?_
    cases rest with
    | nil => exact ⟨_, rfl⟩
    | cons c rest =>
      exact ⟨_, by rw [List.nil_append, number, if_pos (by simp [not_isDigit_of_ends ends])]; rfl⟩
  | cons c cs =>
    cases digit : isDigit c with
    | false => exact .fails fun rest _ =>
      ⟨_, by rw [List.cons_append, number, if_pos (by simp [digit])]; rfl⟩
    | true =>
      have next : ∀ rest, Ends rest →
        ((cs ++ rest).head?.map isDigit).getD false = (cs.head?.map isDigit).getD false := by
        intro rest ends
        cases cs with
        | cons d cs => rfl
        | nil =>
          cases rest with
          | nil => rfl
          | cons d rest => exact not_isDigit_of_ends ends
      have parts (rest : List Char) (ends : Ends rest) : number negative (c :: cs ++ rest) =
          if c = '0' ∧ (cs.head?.map isDigit).getD false then atNext .invalidNumber (cs ++ rest)
          else afterWhole negative (significand 0 ((c :: cs).takeWhile isDigit))
            ((c :: cs).dropWhile isDigit ++ rest) := by
        obtain ⟨taken, dropped⟩ := digits_append (c :: cs) ends
        rw [List.cons_append] at taken dropped
        rw [List.cons_append, number_of_digit negative (cs ++ rest) digit, taken, dropped,
          next rest ends]
      refine Steady.congr ?_ parts
      split
      · exact .fails fun rest _ => ⟨_, rfl⟩
      · exact (steady_afterWhole negative _ _).of_suffix (List.dropWhile_suffix _)

end

theorem skipSpaces_of_visible {c : Char} (visible : isSpace c = false) (cs : List Char) :
    skipSpaces (c :: cs) = c :: cs := by
  simp [skipSpaces, visible]

theorem isSpace_of_numeric {c : Char} (numeric : isNumeric c = true) : isSpace c = false := by
  cases space : isSpace c with
  | false => rfl
  | true =>
    simp only [isSpace, Bool.or_eq_true, beq_iff_eq] at space
    rcases space with ((rfl | rfl) | rfl) | rfl <;> cases numeric

theorem ends_of_skipSpaces {cs : List Char} (h : ∀ c more, skipSpaces cs = c :: more → isNumeric c = false) : Ends cs := by
  intro c hc
  cases cs with
  | nil => cases hc
  | cons d cs =>
    cases hc
    cases numeric : isNumeric c with
    | false => rfl
    | true => exact (h c cs (skipSpaces_of_visible (isSpace_of_numeric numeric) cs)).symm.trans numeric |>.symm

/-- What begins like a number is read as one, or not at all. -/
theorem value_numeric {c : Char} (numeric : isNumeric c = true) (cs : List Char) :
    ∃ read, Steady (c :: cs) read ∧ ∀ fuel depth rest,
      value (fuel + 1) depth (c :: cs ++ rest) = (read rest >>= fun r =>
        pure (Json.number r.1, r.2)) := by
  by_cases sign : c = '-'
  · subst sign
    exact ⟨_, (steady_number true cs).of_suffix (List.suffix_cons _ cs), fun fuel depth rest => by
      rw [List.cons_append, value]
      rfl⟩
  · have body (fuel depth : Nat) (rest : List Char) : value (fuel + 1) depth (c :: cs ++ rest) =
        if isDigit c then (number false (c :: cs ++ rest) >>= fun r => pure (Json.number r.1, r.2))
        else atNext .expectedValue (c :: cs ++ rest) := by
      rw [List.cons_append, value, skipSpaces_of_visible (isSpace_of_numeric numeric)]
      split
      all_goals
        rename_i shape
        cases shape <;> first | exact absurd rfl sign | cases numeric | rfl
    cases digit : isDigit c with
    | true => exact ⟨_, steady_number false (c :: cs), fun fuel depth rest =>
      (body fuel depth rest).trans (if_pos digit)⟩
    | false =>
      refine ⟨fun rest => atNext .expectedValue (c :: cs ++ rest), .fails fun rest _ => ⟨_, rfl⟩,
        fun fuel depth rest => ?_⟩
      rw [body, if_neg (by simp [digit])]
      rfl

/-- The text of a number is read as a whole. If it is read as that number once, then wherever it
stands. -/
theorem exact_number {n : Number} {fuel depth : Nat} {j : Json} {rest rest' : List Char}
    (read : value fuel depth (renderNumber n ++ rest) = .ok (j, rest')) (ends : Ends rest)
    (ends' : Ends rest') :
    rest' = rest ∧ (j = .number n → ReadsAt depth (.number n)) := by
  obtain _ | fuel := fuel
  · rw [value] at read
    cases read
  rcases renderNumber_numeric n with null | ⟨nonempty, numeric⟩
  · rw [null] at read
    have word : value (fuel + 1) depth ('n' :: 'u' :: 'l' :: 'l' :: rest) = .ok (.null, rest) := by
      rw [value]
      rfl
    cases word.symm.trans read
    exact ⟨rfl, fun h => by cases h⟩
  · obtain ⟨c, cs, printed⟩ := List.exists_cons_of_ne_nil nonempty
    rw [printed] at read numeric
    obtain ⟨readNumber, steady, shape⟩ := value_numeric (numeric c (.head cs)) cs
    rw [shape] at read
    obtain ⟨⟨m, behind⟩, given, back⟩ := exceptBind_eq_ok read
    cases back
    rcases steady with fails | ⟨m', left, within, stops⟩
    · exact absurd given (fails rest ends _)
    · cases (stops rest ends).symm.trans given
      -- what was left of the text would be the front of what ends it
      obtain rfl : left = [] := by
        cases left with
        | nil => rfl
        | cons d left =>
          have goesOn := numeric d (within.subset (.head left))
          rw [ends_cons.1 ends'] at goesOn
          cases goesOn
      refine ⟨rfl, fun same => ?_⟩
      cases same
      intro fuel rest enough ends
      rw [render, printed] at enough ⊢
      obtain ⟨fuel, rfl⟩ : ∃ k, fuel = k + 1 := ⟨fuel - 1, by simp at enough; omega⟩
      rw [shape, stops rest ends]
      rfl

end Reindex.Json.Reader
