import Reindex.Proofs.Json.Extent
import Reindex.Proofs.Json.Grammar

/-!
# The scan goes past the text of a value

The scan of a value takes the text of one off the front of what it is given, if what comes behind
does not go on with a number, and it takes nothing else. So the text of a value is what the scan
takes as a whole, by which it can be decided whether a text is one.

Main statements: `Json.Scan.value_append`, `Json.Scan.value_sound` and `Json.valueText_iff`.
-/

namespace Reindex.Json

open Reader (isSpace isDigit hex4? shortEscape? skipSpaces Ends ends_cons ends_nil isNumeric
  skipSpaces_of_visible)

namespace Scan

/-! ## Numbers -/

section Numbers

variable {cs rest : List Char}

/-- Digits are taken up to what is none. -/
theorem digits_eq_some_iff :
    digits cs = some rest ↔ ∃ ds, Digits ds ∧ cs = ds ++ rest ∧
    ∀ c ∈ rest.head?, isDigit c = false := by
  constructor
  · intro h
    unfold digits at h
    split at h
    · rename_i first
      cases h
      refine ⟨cs.takeWhile isDigit, ⟨fun none => ?_, fun _ h => List.mem_takeWhile_imp h⟩,
        List.takeWhile_append_dropWhile.symm, fun c hc => ?_⟩
      · cases cs with
        | nil => cases first
        | cons c cs =>
          rw [List.takeWhile_cons, if_pos (by simpa using first)] at none
          cases none
      · have other := List.head?_dropWhile_not isDigit cs
        rw [Option.mem_def.1 hc] at other
        simpa using other
    · cases h
  · rintro ⟨ds, ⟨some, all⟩, rfl, stop⟩
    obtain ⟨d, ds, rfl⟩ := List.exists_cons_of_ne_nil some
    unfold digits
    rw [List.cons_append, if_pos (by simpa using all d (.head _)), ← List.cons_append,
      List.dropWhile_append_of_pos all]
    cases rest with
    | nil => rfl
    | cons c rest => simp [stop c rfl]

theorem not_isDigit_of_ends (ends : Ends rest) : ∀ c ∈ rest.head?, isDigit c = false :=
  fun c hc => (Bool.or_eq_false_iff.1 (ends c hc)).1

theorem exponent_append {text : List Char} (h : ExponentText text) (ends : Ends rest) :
    exponent (text ++ rest) = some rest := by
  cases h with
  | none =>
    rw [List.nil_append]
    cases rest with
    | nil => rfl
    | cons c rest =>
      have other := ends_cons.1 ends
      unfold exponent
      split
      case h_7 => rfl
      all_goals
        rename_i shape
        cases shape
        cases other
  | @some e sign ds letter signed digits =>
    have read := digits_eq_some_iff.2 ⟨ds, digits, rfl, not_isDigit_of_ends ends⟩
    obtain ⟨some, all⟩ := digits
    obtain ⟨d, ds, rfl⟩ := List.exists_cons_of_ne_nil some
    have digit : isDigit d = true := all d (.head _)
    simp only [List.mem_cons, List.not_mem_nil, or_false] at letter signed
    rcases signed with rfl | rfl | rfl
    · have plus : d ≠ '+' := by rintro rfl; cases digit
      have minus : d ≠ '-' := by rintro rfl; cases digit
      rcases letter with rfl | rfl <;> simpa [exponent, plus, minus] using read
    · rcases letter with rfl | rfl <;> exact read
    · rcases letter with rfl | rfl <;> exact read

theorem exponentText_of_exponent (h : exponent cs = some rest) :
    ∃ text, ExponentText text ∧ cs = text ++ rest := by
  have signed {e : Char} (sign : List Char) (letter : e ∈ ['e', 'E'])
    (sign_mem : sign ∈ [[], ['+'], ['-']]) {more : List Char}
      (read : digits more = some rest) : ∃ text, ExponentText text ∧
        e :: (sign ++ more) = text ++ rest := by
    obtain ⟨ds, all, rfl, -⟩ := digits_eq_some_iff.1 read
    exact ⟨_, .some letter sign_mem all, by simp⟩
  unfold exponent at h
  split at h
  · exact signed ['+'] (by decide) (by decide) h
  · exact signed ['+'] (by decide) (by decide) h
  · exact signed ['-'] (by decide) (by decide) h
  · exact signed ['-'] (by decide) (by decide) h
  · exact signed [] (by decide) (by decide) h
  · exact signed [] (by decide) (by decide) h
  · cases h
    exact ⟨[], .none, rfl⟩

/-- Behind the digits of a number come no more of them. -/
theorem head_of_exponentText {text : List Char} (h : ExponentText text) (ends : Ends rest) :
    ∀ c ∈ (text ++ rest).head?, isDigit c = false ∧ c ≠ '.' := by
  intro c hc
  cases h with
  | none =>
    refine ⟨not_isDigit_of_ends ends c hc, ?_⟩
    rintro rfl
    cases ends '.' hc
  | @some e sign ds letter signed digits =>
    cases hc
    simp only [List.mem_cons, List.not_mem_nil, or_false] at letter
    rcases letter with rfl | rfl <;> exact ⟨rfl, by decide⟩

theorem number_append {text : List Char} (h : Unsigned text) (ends : Ends rest) :
    number (text ++ rest) = some rest := by
  obtain @⟨whole, fraction, exponent, all, zero, fractional, scaled⟩ := h
  have behind := head_of_exponentText scaled ends
  have past : digits (whole ++ (fraction ++ (exponent ++ rest))) =
    some (fraction ++ (exponent ++ rest)) := by
    refine digits_eq_some_iff.2 ⟨whole, all, rfl, fun c hc => ?_⟩
    cases fractional with
    | none => exact (behind c hc).1
    | some digits =>
      cases hc
      rfl
  have alone : ¬ ((whole ++ (fraction ++ (exponent ++ rest))).head? = some '0' ∧
      (whole ++ (fraction ++ (exponent ++ rest))).length ≠
        (fraction ++ (exponent ++ rest)).length + 1) := by
    rintro ⟨first, longer⟩
    obtain ⟨c, more, rfl⟩ := List.exists_cons_of_ne_nil all.1
    rw [zero first] at longer
    exact longer (by simp [Nat.add_comm])
  rw [List.append_assoc, List.append_assoc, number, past]
  simp only [Option.bind_eq_bind, Option.bind_some, if_neg alone]
  cases fractional with
  | none =>
    rw [List.nil_append]
    split
    · rename_i more point
      exact absurd rfl (behind '.' (by rw [point]; rfl)).2
    · exact exponent_append scaled ends
  | @some ds digits =>
    have read := digits_eq_some_iff.2 ⟨ds, digits, rfl, fun c hc => (behind c hc).1⟩
    rw [List.cons_append]
    simp only [read, Option.bind_some]
    exact exponent_append scaled ends

theorem unsigned_of_number (h : number cs = some rest) :
    ∃ text, Unsigned text ∧ cs = text ++ rest := by
  unfold number at h
  obtain ⟨behind, past, h⟩ := Option.bind_eq_some_iff.1 h
  obtain ⟨whole, all, rfl, -⟩ := digits_eq_some_iff.1 past
  split at h
  · cases h
  · rename_i alone
    have zero : whole.head? = some '0' → whole = ['0'] := fun first => by
      obtain ⟨more, rfl⟩ := List.head?_eq_some_iff.1 first
      have single : ('0' :: more ++ behind).length = behind.length + 1 :=
        Decidable.byContradiction fun longer => alone ⟨rfl, longer⟩
      cases more with
      | nil => rfl
      | cons c more =>
        simp only [List.cons_append, List.length_cons, List.length_append] at single
        omega
    split at h
    · obtain ⟨left, point, scaling⟩ := Option.bind_eq_some_iff.1 h
      obtain ⟨ds, digits, rfl, -⟩ := digits_eq_some_iff.1 point
      obtain ⟨exponent, scaled, rfl⟩ := exponentText_of_exponent scaling
      exact ⟨_, .mk all zero (.some digits) scaled, by simp⟩
    · obtain ⟨exponent, scaled, rfl⟩ := exponentText_of_exponent h
      exact ⟨_, .mk all zero .none scaled, by simp⟩

end Numbers

/-! ## Words and strings -/

section Strings

variable {cs rest : List Char}

theorem word_eq_some_iff {ws : List Char} : word ws cs = some rest ↔ cs = ws ++ rest := by
  fun_induction word ws cs with
  | case1 cs => simp [eq_comm]
  | case2 ws c cs ih => simpa using ih
  | case3 w ws c cs other => simp [Ne.symm other]
  | case4 => simp

theorem string_append {content : List Char} (h : Content content) :
    string (content ++ '"' :: rest) = some rest := by
  induction h with
  | nil => rfl
  | plain quote backslash visible _ ih =>
    rw [List.cons_append, string, if_neg (not_or.2 ⟨backslash, visible⟩), ih]
    · exact quote
    all_goals
      intros
      exact backslash ‹_›
  | short escape _ ih => rw [List.cons_append, List.cons_append, string_short escape, ih]
  | hex escape _ ih =>
    simp only [List.cons_append]
    rw [string_hex escape, ih]

/-- What stands between quotes ends at the first quote that is not escaped. -/
theorem content_unique {content content' : List Char} (h : Content content) (h' : Content content')
    {rest rest' : List Char} (same : content ++ '"' :: rest = content' ++ '"' :: rest') :
    content = content' ∧ rest = rest' := by
  have left : some rest = some rest' := by rw [← string_append h, same, string_append h']
  cases left
  exact ⟨List.append_cancel_right same, rfl⟩

theorem content_of_string (h : string cs = some rest) :
    ∃ content, Content content ∧ cs = content ++ '"' :: rest := by
  fun_induction string cs with
  | case1 => cases h
  | case2 =>
    cases h
    exact ⟨[], .nil, rfl⟩
  | case3 a b c d more hex ih =>
    obtain ⟨n, escape⟩ := Option.isSome_iff_exists.1 hex
    obtain ⟨content, escaped, rfl⟩ := ih h
    exact ⟨_, .hex escape escaped, rfl⟩
  | case4 => cases h
  | case5 c more other short ih =>
    obtain ⟨e, escape⟩ := Option.isSome_iff_exists.1 short
    obtain ⟨content, escaped, rfl⟩ := ih h
    exact ⟨_, .short escape escaped, rfl⟩
  | case6 => cases h
  | case7 => cases h
  | case8 c more quote hex short plain ih =>
    obtain ⟨backslash, visible⟩ := not_or.1 plain
    obtain ⟨content, escaped, rfl⟩ := ih h
    exact ⟨_, .plain quote backslash visible escaped, rfl⟩

theorem content_iff {content : List Char} :
    Content content ↔ string (content ++ ['"']) = some [] := by
  refine ⟨string_append, fun h => ?_⟩
  obtain ⟨content', escaped, same⟩ := content_of_string h
  exact List.append_cancel_right same ▸ escaped

instance (content : List Char) : Decidable (Content content) := decidable_of_iff _ content_iff.symm

end Strings

/-! ## The scan goes past the text of a value -/

/-- The text is gone past, whatever ends it. -/
def Passed (text : List Char) : Prop :=
  ∀ fuel rest, 2 * text.length ≤ fuel → Ends rest → value fuel (text ++ rest) = some rest

theorem items_skipSpaces (fuel : Nat) (cs : List Char) :
    items fuel (skipSpaces cs) = items fuel cs := by
  cases fuel with
  | zero => rfl
  | succ fuel => rw [items, items, value_skipSpaces]

theorem members_skipSpaces (fuel : Nat) (cs : List Char) :
    members fuel (skipSpaces cs) = members fuel cs := by
  cases fuel with
  | zero => rfl
  | succ fuel => rw [members, members, Reader.skipSpaces_idem]

theorem value_of_digit {c : Char} (digit : isDigit c = true) (fuel : Nat) (cs : List Char) :
    value (fuel + 1) (c :: cs) = number (c :: cs) := by
  have visible : isSpace c = false :=
    Reader.isSpace_of_numeric (by rw [isNumeric, digit, Bool.true_or])
  rw [value, skipSpaces_of_visible visible]
  split
  case h_9 => rfl
  all_goals
    rename_i shape
    cases shape <;> cases digit

section Passing

variable {fuel : Nat} {rest : List Char}

/-- The spaces around a value are gone past with it, up to what closes it. -/
theorem value_item {i : Item} (spaced : i.Spaced) (passed : Passed i.value) (fuel : Nat)
    (enough : 2 * i.text.length ≤ fuel) {close : Char} (closes : close ∈ closers)
    (rest : List Char) :
    value fuel (i.text ++ close :: rest) = some (i.after ++ close :: rest) := by
  have room : 2 * i.value.length ≤ fuel := by
    simp only [Item.text, List.length_append] at enough
    omega
  rw [← value_skipSpaces, Item.text, List.append_assoc, List.append_assoc,
    skipSpaces_blank spaced.1, value_skipSpaces]
  exact passed fuel (i.after ++ close :: rest) room (spaced.2.ends_close closes rest)

/-- Past what stands behind an item. -/
def afterItem (fuel : Nat) : List Char → Option (List Char)
  | ',' :: rest => items fuel rest
  | ']' :: rest => some rest
  | _ => none

theorem items_succ (fuel : Nat) (cs : List Char) :
    items (fuel + 1) cs = (value fuel cs).bind fun left => afterItem fuel (skipSpaces left) := by
  rw [items]
  rfl

theorem items_item {i : Item} (spaced : i.Spaced) (passed : Passed i.value)
    (enough : 2 * i.text.length ≤ fuel) {close : Char} (closes : close ∈ closers)
    (rest : List Char) :
    items (fuel + 1) (i.text ++ close :: rest) = afterItem fuel (close :: rest) := by
  rw [items_succ, value_item spaced passed fuel enough closes, Option.bind_some,
    spaced.2.skipSpaces_close closes]

theorem items_append {is : List Item} {body : List Char} (separated : Separated Item.text is body)
    (given : is ≠ []) (spaced : ∀ i ∈ is, i.Spaced) (passed : ∀ i ∈ is, Passed i.value)
    (enough : 2 * body.length + 1 ≤ fuel) :
    items fuel (body ++ ']' :: rest) = some rest := by
  induction separated generalizing fuel with
  | none => exact absurd rfl given
  | one i =>
    obtain ⟨fuel, rfl⟩ : ∃ n, fuel = n + 1 := ⟨fuel - 1, by omega⟩
    exact items_item (spaced i (.head _)) (passed i (.head _)) (by omega) (by decide) rest
  | @more i _ _ body _ ih =>
    simp only [List.length_append, List.length_cons] at enough
    obtain ⟨fuel, rfl⟩ : ∃ n, fuel = n + 1 := ⟨fuel - 1, by omega⟩
    have behind := ih (List.cons_ne_nil _ _) (fun i hi => spaced i (.tail _ hi))
      (fun i hi => passed i (.tail _ hi))
      (show 2 * body.length + 1 ≤ fuel by omega)
    rw [List.append_assoc, List.cons_append, items_item (spaced i (.head _)) (passed i (.head _))
      (by omega) (by decide)]
    exact behind

/-- Past what stands behind a member. -/
def afterMember (fuel : Nat) : List Char → Option (List Char)
  | ',' :: rest => members fuel rest
  | '\x7d' :: rest => some rest
  | _ => none

theorem members_of_name {cs key behind inner : List Char}
    (quote : skipSpaces cs = '"' :: (key ++ '"' :: behind)) (escaped : Content key)
    (colon : skipSpaces behind = ':' :: inner) :
    members (fuel + 1) cs = (value fuel inner).bind fun left =>
      afterMember fuel (skipSpaces left) := by
  simp only [members, quote, string_append escaped, Option.bind_eq_bind, Option.bind_some, colon]
  rfl

theorem name_of_members {cs : List Char} (h : members (fuel + 1) cs = some rest) :
    ∃ key behind inner, skipSpaces cs = '"' :: (key ++ '"' :: behind) ∧ Content key ∧
      skipSpaces behind = ':' :: inner := by
  rw [members] at h
  split at h
  · rename_i more quote
    obtain ⟨behind, name, past⟩ := Option.bind_eq_some_iff.1 h
    obtain ⟨key, escaped, rfl⟩ := content_of_string name
    split at past
    · rename_i inner colon
      exact ⟨key, behind, inner, quote, escaped, colon⟩
    · cases past
  · cases h

theorem members_member {m : Member} (spaced : m.Spaced) (key : Content m.key)
    (passed : Passed m.held.value) (enough : 2 * m.text.length ≤ fuel) {close : Char}
    (closes : close ∈ closers) (rest : List Char) :
    members (fuel + 1) (m.text ++ close :: rest) = afterMember fuel (close :: rest) := by
  have room : 2 * m.held.text.length ≤ fuel := by
    simp only [Member.text, List.length_append, List.length_cons] at enough
    omega
  rw [members_of_name (spaced.skipSpaces_text _) key (spaced.skipSpaces_colon _),
    value_item spaced.2.2 passed fuel room closes, Option.bind_some,
      spaced.2.2.2.skipSpaces_close closes]

theorem members_append {ms : List Member} {body : List Char}
    (separated : Separated Member.text ms body) (given : ms ≠ []) (spaced : ∀ m ∈ ms, m.Spaced)
    (keys : ∀ m ∈ ms, Content m.key) (passed : ∀ m ∈ ms, Passed m.held.value)
    (enough : 2 * body.length + 1 ≤ fuel) : members fuel (body ++ '\x7d' :: rest) = some rest := by
  induction separated generalizing fuel with
  | none => exact absurd rfl given
  | one m =>
    obtain ⟨fuel, rfl⟩ : ∃ n, fuel = n + 1 := ⟨fuel - 1, by omega⟩
    exact members_member (spaced m (.head _)) (keys m (.head _)) (passed m (.head _)) (by omega)
      (by decide) rest
  | @more m _ _ body _ ih =>
    simp only [List.length_append, List.length_cons] at enough
    obtain ⟨fuel, rfl⟩ : ∃ n, fuel = n + 1 := ⟨fuel - 1, by omega⟩
    have behind := ih (List.cons_ne_nil _ _) (fun m hm => spaced m (.tail _ hm))
      (fun m hm => keys m (.tail _ hm))
      (fun m hm => passed m (.tail _ hm)) (show 2 * body.length + 1 ≤ fuel by omega)
    rw [List.append_assoc, List.cons_append,
      members_member (spaced m (.head _)) (keys m (.head _)) (passed m (.head _)) (by omega)
        (by decide)]
    exact behind

theorem value_bracket_of_closed {cs : List Char} (closed : skipSpaces cs = ']' :: rest) :
    value (fuel + 1) ('[' :: cs) = some rest := by
  have opened : skipSpaces ('[' :: cs) = '[' :: cs := rfl
  simp only [value, opened, closed]

theorem value_bracket {cs : List Char} (unclosed : ∀ more, skipSpaces cs ≠ ']' :: more) :
    value (fuel + 1) ('[' :: cs) = items fuel cs := by
  have opened : skipSpaces ('[' :: cs) = '[' :: cs := rfl
  simp only [value, opened]
  exact items_skipSpaces fuel cs

theorem value_brace_of_closed {cs : List Char} (closed : skipSpaces cs = '\x7d' :: rest) :
    value (fuel + 1) ('\x7b' :: cs) = some rest := by
  have opened : skipSpaces ('\x7b' :: cs) = '\x7b' :: cs := rfl
  simp only [value, opened, closed]

theorem value_brace {cs : List Char} (unclosed : ∀ more, skipSpaces cs ≠ '\x7d' :: more) :
    value (fuel + 1) ('\x7b' :: cs) = members fuel cs := by
  have opened : skipSpaces ('\x7b' :: cs) = '\x7b' :: cs := rfl
  simp only [value, opened]
  exact members_skipSpaces fuel cs

end Passing

/-- A text begins with something visible, which closes nothing and is the letter of a null only
where that stands. -/
theorem head_of_valueText {text : List Char} (h : ValueText text) :
    ∃ c more, text = c :: more ∧ isSpace c = false ∧ c ≠ ']' ∧ (c = 'n' → text = nullText) := by
  have unsigned {text : List Char} (h : Unsigned text) :
      ∃ c more, text = c :: more ∧ isSpace c = false ∧ c ≠ ']' ∧ (c = 'n' → text = nullText) := by
    obtain ⟨⟨some, all⟩, -, -, -⟩ := h
    obtain ⟨c, more, rfl⟩ := List.exists_cons_of_ne_nil some
    have digit : isDigit c = true := all c (.head _)
    refine ⟨c, _, rfl, Reader.isSpace_of_numeric (by rw [isNumeric, digit, Bool.true_or]), ?_, ?_⟩
    all_goals
      rintro rfl
      cases digit
  cases h with
  | word known =>
    simp only [List.mem_cons, List.not_mem_nil, or_false] at known
    rcases known with rfl | rfl | rfl
    · exact ⟨_, _, rfl, rfl, by decide, fun _ => rfl⟩
    · exact ⟨_, _, rfl, rfl, by decide, fun h => absurd h (by decide)⟩
    · exact ⟨_, _, rfl, rfl, by decide, fun h => absurd h (by decide)⟩
  | number h => exact unsigned h
  | _ => exact ⟨_, _, rfl, rfl, by decide, fun h => absurd h (by decide)⟩

theorem passed_cons {c : Char} {cs : List Char}
    (step : ∀ fuel rest, 2 * cs.length + 1 ≤ fuel → Ends rest →
      value (fuel + 1) (c :: (cs ++ rest)) = some rest) :
    Passed (c :: cs) := by
  intro fuel rest enough ends
  rw [List.length_cons] at enough
  obtain ⟨fuel, rfl⟩ : ∃ n, fuel = n + 1 := ⟨fuel - 1, by omega⟩
  exact step fuel rest (by omega) ends

theorem passed_number {text : List Char} (unsigned : Unsigned text) : Passed text := by
  have digits := unsigned
  obtain ⟨⟨some, all⟩, -, -, -⟩ := digits
  obtain ⟨c, more, rfl⟩ := List.exists_cons_of_ne_nil some
  exact passed_cons fun fuel rest _ ends => (value_of_digit (all c (.head _)) fuel _).trans
    (number_append unsigned ends)

theorem passed_array {is : List Item} {body : List Char} (separated : Separated Item.text is body)
    (spaced : ∀ i ∈ is, i.Spaced) (values : ∀ i ∈ is, ValueText i.value)
    (passed : ∀ i ∈ is, Passed i.value) :
    Passed ('[' :: (body ++ [']'])) := by
  refine passed_cons fun fuel rest within ends => ?_
  rw [List.append_assoc, List.singleton_append]
  rw [List.length_append] at within
  cases is with
  | nil =>
    cases separated with
    | none blank => exact value_bracket_of_closed (blank.skipSpaces_close (by decide) rest)
  | cons i is =>
    rw [value_bracket, items_append separated (List.cons_ne_nil i is) spaced passed (by omega)]
    intro more closed
    obtain ⟨tail, rfl⟩ := separated.front
    obtain ⟨c, text, shape, visible, other, -⟩ := head_of_valueText (values i (.head _))
    rw [Item.text, shape, List.append_assoc, List.append_assoc,
      skipSpaces_blank (spaced i (.head _)).1, List.append_assoc, List.cons_append,
        skipSpaces_of_visible visible] at closed
    exact other (List.cons.inj closed).1

theorem passed_object {ms : List Member} {body : List Char}
    (separated : Separated Member.text ms body) (spaced : ∀ m ∈ ms, m.Spaced)
    (keys : ∀ m ∈ ms, Content m.key) (passed : ∀ m ∈ ms, Passed m.held.value) :
    Passed ('\x7b' :: (body ++ ['\x7d'])) := by
  refine passed_cons fun fuel rest within ends => ?_
  rw [List.append_assoc, List.singleton_append]
  rw [List.length_append] at within
  cases ms with
  | nil =>
    cases separated with
    | none blank => exact value_brace_of_closed (blank.skipSpaces_close (by decide) rest)
  | cons m ms =>
    rw [value_brace, members_append separated (List.cons_ne_nil m ms) spaced keys passed (by omega)]
    intro more closed
    obtain ⟨tail, rfl⟩ := separated.front
    rw [List.append_assoc, (spaced m (.head _)).skipSpaces_text] at closed
    cases closed

/-- **The scan goes past the text of a value.** -/
theorem value_append {text : List Char} (h : ValueText text) : Passed text := by
  induction h with
  | word known =>
    simp only [List.mem_cons, List.not_mem_nil, or_false] at known
    rcases known with rfl | rfl | rfl <;> exact passed_cons fun fuel rest _ _ =>
      word_eq_some_iff.2 rfl
  | number unsigned => exact passed_number unsigned
  | negative unsigned => exact passed_cons fun fuel rest _ ends => number_append unsigned ends
  | string escaped =>
    refine passed_cons fun fuel rest _ _ => ?_
    rw [List.append_assoc]
    exact string_append escaped
  | array separated spaced values passed => exact passed_array separated spaced values passed
  | object separated spaced keys _ passed => exact passed_object separated spaced keys passed

/-! ## The scan goes past nothing else -/

/-- What is gone past is the text of a value, behind spaces. -/
def ValueSound (fuel : Nat) : Prop :=
  ∀ {cs rest : List Char}, value fuel cs = some rest → ∃ text, ValueText text ∧
    skipSpaces cs = text ++ rest

/-- What is gone past is what stands between brackets, and the bracket behind it. -/
def ItemsSound (fuel : Nat) : Prop :=
  ∀ {cs rest : List Char}, items fuel cs = some rest → ∃ body, ItemsText body ∧
    cs = body ++ ']' :: rest

/-- What is gone past is what stands between braces, and the brace behind it. -/
def MembersSound (fuel : Nat) : Prop :=
  ∀ {cs rest : List Char}, members fuel cs = some rest → ∃ body, MembersText body ∧
    cs = body ++ '\x7d' :: rest

section Sound

variable {fuel : Nat}

theorem ItemsSound.succ (ofValue : ValueSound fuel) (ofItems : ItemsSound fuel) :
    ItemsSound (fuel + 1) := by
  intro cs rest h
  rw [items_succ] at h
  obtain ⟨left, past, tail⟩ := Option.bind_eq_some_iff.1 h
  obtain ⟨text, valid, written⟩ := ofValue past
  obtain ⟨s, before, rfl⟩ := exists_blank_of_skipSpaces written
  unfold afterItem at tail
  split at tail
  · rename_i more comma
    obtain ⟨t, after, rfl⟩ := exists_blank_of_skipSpaces comma
    obtain ⟨body, listed, rfl⟩ := ofItems tail
    exact ⟨_, .cons (i := ⟨s, text, t⟩) ⟨before, after⟩ valid listed, by simp [Item.text]⟩
  · rename_i closed
    cases tail
    obtain ⟨t, after, rfl⟩ := exists_blank_of_skipSpaces closed
    exact ⟨_, .one (i := ⟨s, text, t⟩) ⟨before, after⟩ valid, by simp [Item.text]⟩
  · cases tail

theorem MembersSound.succ (ofValue : ValueSound fuel) (ofMembers : MembersSound fuel) :
    MembersSound (fuel + 1) := by
  intro cs rest h
  obtain ⟨key, behind, inner, quote, escaped, colon⟩ := name_of_members h
  rw [members_of_name quote escaped colon] at h
  obtain ⟨left, past, tail⟩ := Option.bind_eq_some_iff.1 h
  obtain ⟨a, before, rfl⟩ := exists_blank_of_skipSpaces quote
  obtain ⟨b, gap, rfl⟩ := exists_blank_of_skipSpaces colon
  obtain ⟨text, valid, written⟩ := ofValue past
  obtain ⟨s, front, rfl⟩ := exists_blank_of_skipSpaces written
  unfold afterMember at tail
  split at tail
  · rename_i more comma
    obtain ⟨t, after, rfl⟩ := exists_blank_of_skipSpaces comma
    obtain ⟨body, listed, rfl⟩ := ofMembers tail
    exact ⟨_, .cons (m := ⟨a, key, b, ⟨s, text, t⟩⟩) ⟨before, gap, front,
      after⟩ escaped valid listed,
      by simp [Member.text, Item.text, quoted]⟩
  · rename_i closed
    cases tail
    obtain ⟨t, after, rfl⟩ := exists_blank_of_skipSpaces closed
    exact ⟨_, .one (m := ⟨a, key, b, ⟨s, text, t⟩⟩) ⟨before, gap, front, after⟩ escaped valid,
      by simp [Member.text, Item.text, quoted]⟩
  · cases tail

theorem ValueSound.succ (ofItems : ItemsSound fuel) (ofMembers : MembersSound fuel) :
    ValueSound (fuel + 1) := by
  intro cs rest h
  rw [value] at h
  split at h
  · cases h
  · rename_i spaces
    exact ⟨nullText, .word (by decide), by rw [spaces, word_eq_some_iff.1 h]; rfl⟩
  · rename_i spaces
    exact ⟨['t', 'r', 'u', 'e'], .word (by decide), by rw [spaces, word_eq_some_iff.1 h]; rfl⟩
  · rename_i spaces
    exact ⟨['f', 'a', 'l', 's', 'e'], .word (by decide), by rw [spaces, word_eq_some_iff.1 h]; rfl⟩
  · rename_i spaces
    obtain ⟨text, unsigned, rfl⟩ := unsigned_of_number h
    exact ⟨_, .negative unsigned, spaces⟩
  · rename_i spaces
    obtain ⟨content, escaped, rfl⟩ := content_of_string h
    exact ⟨quoted content, .string escaped, by rw [spaces]; simp [quoted]⟩
  · rename_i more spaces
    split at h
    · rename_i closed
      cases h
      obtain ⟨s, blank, rfl⟩ := exists_blank_of_skipSpaces closed
      exact ⟨_, .emptyArray blank, by rw [spaces]; simp⟩
    · rw [items_skipSpaces] at h
      obtain ⟨body, listed, rfl⟩ := ofItems h
      exact ⟨_, listed.array, by rw [spaces]; simp⟩
  · rename_i more spaces
    split at h
    · rename_i closed
      cases h
      obtain ⟨s, blank, rfl⟩ := exists_blank_of_skipSpaces closed
      exact ⟨_, .emptyObject blank, by rw [spaces]; simp⟩
    · rw [members_skipSpaces] at h
      obtain ⟨body, listed, rfl⟩ := ofMembers h
      exact ⟨_, listed.object, by rw [spaces]; simp⟩
  · obtain ⟨text, unsigned, same⟩ := unsigned_of_number h
    exact ⟨text, .number unsigned, same⟩

end Sound

/-- **What the scan goes past is the text of a value,** with the same for items and for members. -/
theorem value_sound (fuel : Nat) : ValueSound fuel ∧ ItemsSound fuel ∧ MembersSound fuel := by
  induction fuel with
  | zero => exact ⟨nofun, nofun, nofun⟩
  | succ fuel ih =>
    obtain ⟨ofValue, ofItems, ofMembers⟩ := ih
    exact ⟨ValueSound.succ ofItems ofMembers, ItemsSound.succ ofValue ofItems,
      MembersSound.succ ofValue ofMembers⟩

/-! ## The text of a value -/

theorem skipSpaces_valueText {text : List Char} (valid : ValueText text) (rest : List Char) :
    skipSpaces (text ++ rest) = text ++ rest := by
  obtain ⟨c, more, rfl, visible, -⟩ := head_of_valueText valid
  exact skipSpaces_of_visible visible _

theorem raw_valueText {s text rest : List Char} (blank : Blank s) (valid : ValueText text)
    (ends : Ends rest) :
    raw (s ++ (text ++ rest)) = some (text, rest) := by
  have start : skipSpaces (s ++ (text ++ rest)) = text ++ rest := by
    rw [skipSpaces_blank blank, skipSpaces_valueText valid]
  have past := value_append valid (2 * (text ++ rest).length + 2) rest
    (by rw [List.length_append]; omega) ends
  have front : (text ++ rest).take ((text ++ rest).length - rest.length) = text := by
    rw [List.length_append, Nat.add_sub_cancel, List.take_left]
  unfold raw
  simp only [start, past, front, Option.bind_eq_bind, Option.bind_some, Option.pure_def]

theorem valueText_of_raw {cs text rest : List Char} (h : raw cs = some (text, rest)) :
    ValueText text := by
  have whole := raw_append h
  obtain ⟨left, scanned, taken⟩ := Option.bind_eq_some_iff.1 h
  cases taken
  obtain ⟨read, valid, same⟩ := (value_sound _).1 scanned
  rw [Reader.skipSpaces_idem, whole] at same
  exact List.append_cancel_right same ▸ valid

end Scan

/-- **The texts of values are those that the scan takes as a whole.** -/
theorem valueText_iff {text : List Char} : ValueText text ↔ Scan.raw text = some (text, []) := by
  refine ⟨fun valid => ?_, Scan.valueText_of_raw⟩
  have taken := Scan.raw_valueText .nil valid ends_nil
  rwa [List.nil_append, List.append_nil] at taken

instance (text : List Char) : Decidable (ValueText text) := decidable_of_iff _ valueText_iff.symm

/-- Brackets nest, and a bracket in a string is none. -/
example : ValueText ['[', '\x7b', '"', ']', '"', ':', '[', ']', '\x7d', ']'] ∧
    ¬ ValueText ['[', '\x7b', ']', '\x7d'] := by
  decide

end Reindex.Json
