import Reindex.Proofs.Json.Members

/-!
# What is printed stands on one line and reads back

A compact text has no line feed, since control characters are escaped in strings and nothing else
that is printed has any. A string reads back as it was, whatever its characters. So does an object
whose members read back, if they are in order and the first is not named as that of a quoted value.

Main statements: `Json.newline_not_mem_render`, `Json.reads_string` and `Json.reads_object`.
-/

namespace Reindex

namespace Json.Reader

/-! ## The characters of numbers -/

/-- The characters that numbers are written with. -/
def isNumeric (c : Char) : Bool := isDigit c || ['-', '+', '.', 'e', 'E'].contains c

theorem isNumeric_of_mem_toDigits {c : Char} {n : Nat} (h : c ∈ Nat.toDigits 10 n) :
    isNumeric c = true := by
  have digit : isDigit c = true := by
    simpa [isDigit, Char.isDigit, Char.le_def] using Nat.isDigit_of_mem_toDigits (by decide)
      (by decide) h
  rw [isNumeric, digit, Bool.true_or]

end Json.Reader

namespace Binary64

open Json.Reader (isNumeric isNumeric_of_mem_toDigits)

theorem isNumeric_of_mem_positional {whole : List Char} (hw : ∀ c ∈ whole, isNumeric c = true)
    {digits : Nat} {power : Int} {c : Char} (h : c ∈ positional whole digits power) :
    isNumeric c = true := by
  have zero {k : Nat} (h : c ∈ List.replicate k '0') : isNumeric c = true :=
    (List.mem_replicate.1 h).2 ▸ rfl
  unfold positional at h
  dsimp only at h
  split at h
  · rcases List.mem_append.1 h with h | h
    · exact (List.mem_append.1 h).elim isNumeric_of_mem_toDigits zero
    · exact hw c h
  · split at h
    · rcases List.mem_append.1 h with h | h
      · exact isNumeric_of_mem_toDigits (List.mem_of_mem_take h)
      · rcases List.mem_cons.1 h with rfl | h
        · rfl
        · exact isNumeric_of_mem_toDigits (List.mem_of_mem_drop h)
    · rcases List.mem_append.1 h with h | h
      · rcases List.mem_cons.1 h with rfl | h
        · rfl
        · rcases List.mem_cons.1 h with rfl | h
          · rfl
          · exact zero h
      · exact isNumeric_of_mem_toDigits h

theorem isNumeric_of_mem_scientific {digits : Nat} {power : Int} {c : Char}
    (h : c ∈ scientific digits power) :
    isNumeric c = true := by
  have digit (h : c ∈ Nat.toDigits 10 digits) : isNumeric c = true := isNumeric_of_mem_toDigits h
  unfold scientific at h
  dsimp only at h
  rcases List.mem_append.1 h with h | h
  · split at h
    · rename_i shape
      rw [shape] at digit
      rcases List.mem_cons.1 h with rfl | h
      · exact digit (.head _)
      · rcases List.mem_cons.1 h with rfl | h
        · rfl
        · exact digit (.tail _ h)
    · exact digit h
  · rcases List.mem_cons.1 h with rfl | h
    · rfl
    · rcases List.mem_cons.1 h with rfl | h
      · split <;> rfl
      · exact isNumeric_of_mem_toDigits h

/-- A number that JSON can express has a text, of the characters of numbers. -/
theorem jsonText_numeric (x : Binary64) :
    x.jsonText = "null" ∨ x.jsonText.toList ≠ [] ∧ ∀ c ∈ x.jsonText.toList, isNumeric c = true := by
  unfold jsonText
  split
  · exact .inl rfl
  · exact .inl rfl
  · rename_i s m e
    refine .inr ?_
    rw [String.toList_ofList]
    refine ⟨List.append_ne_nil_of_right_ne_nil _ ?_, fun c h => ?_⟩
    · split
      · unfold positional
        dsimp only
        split
        · simp
        · split <;> simp
      · simp [scientific]
    · rcases List.mem_append.1 h with h | h
      · cases s
        · cases h
        · rw [List.mem_singleton.1 h]
          rfl
      · split at h
        · exact isNumeric_of_mem_positional
            (List.forall_mem_cons.2 ⟨rfl, List.forall_mem_singleton.2 rfl⟩) h
        · exact isNumeric_of_mem_scientific h

end Binary64

namespace Json

/-! ## One line -/

theorem newline_not_mem_escapeChar (c : Char) : '\n' ∉ escapeChar c := by
  unfold escapeChar
  split
  · decide
  split
  · decide
  split
  · rename_i control
    repeat (split; · decide)
    have hex : ∀ d : Fin 16, hexDigit d.val ≠ '\n' := by decide
    have high := hex ⟨c.toNat / 16, by omega⟩
    have low := hex ⟨c.toNat % 16, by omega⟩
    simp [high.symm, low.symm]
  · rename_i visible
    intro h
    obtain rfl := List.mem_singleton.1 h
    exact visible (by decide)

theorem newline_not_mem_renderString (s : String) : '\n' ∉ renderString s := by
  unfold renderString
  simp [newline_not_mem_escapeChar]

/-- The text of a number has the characters of numbers, unless it is one that JSON cannot
express. -/
theorem renderNumber_numeric (n : Number) :
    renderNumber n = ['n', 'u', 'l', 'l'] ∨ renderNumber n ≠ [] ∧
    ∀ c ∈ renderNumber n, Reader.isNumeric c = true := by
  cases n with
  | natural n => exact .inr ⟨Nat.toDigits_ne_nil, fun c h => Reader.isNumeric_of_mem_toDigits h⟩
  | negative n =>
    refine .inr ⟨List.cons_ne_nil _ _, fun c h => ?_⟩
    rcases List.mem_cons.1 h with rfl | h
    · rfl
    · exact Reader.isNumeric_of_mem_toDigits h
  | binary x => exact x.jsonText_numeric.imp (fun h => by rw [renderNumber, h]; rfl) id

theorem newline_not_mem_renderNumber (n : Number) : '\n' ∉ renderNumber n := by
  intro h
  rcases renderNumber_numeric n with null | ⟨-, numeric⟩
  · rw [null] at h
    exact absurd h (by decide)
  · cases numeric _ h

mutual
/-- **A compact text stands on one line.** -/
theorem newline_not_mem_render : (j : Json) → '\n' ∉ j.render
  | .null => by decide
  | .bool true => by decide
  | .bool false => by decide
  | .number n => by
    rw [render]
    exact newline_not_mem_renderNumber n
  | .string s => by
    rw [render]
    exact newline_not_mem_renderString s
  | .array [] => by decide
  | .array (item :: items) => by
    rw [render]
    simp [newline_not_mem_render item, newline_not_mem_renderItems items]
  | .object [] => by decide
  | .object ((k, v) :: members) => by
    rw [render]
    simp [newline_not_mem_renderString k, newline_not_mem_render v,
      newline_not_mem_renderMembers members]
theorem newline_not_mem_renderItems : (items : List Json) → '\n' ∉ renderItems items
  | [] => by decide
  | item :: items => by
    rw [renderItems]
    simp [newline_not_mem_render item, newline_not_mem_renderItems items]
theorem newline_not_mem_renderMembers :
    (members : List (String × Json)) → '\n' ∉ renderMembers members
  | [] => by decide
  | (k, v) :: members => by
    rw [renderMembers]
    simp [newline_not_mem_renderString k, newline_not_mem_render v,
      newline_not_mem_renderMembers members]
end

theorem newline_not_mem_text (j : Json) : '\n' ∉ j.text.toList := by
  unfold text
  rw [String.toList_ofList]
  exact newline_not_mem_render j

/-! ## Strings read back -/

namespace Reader

theorem stringBody_plain (acc : List Char) {c : Char} (quote : c ≠ '"') (backslash : c ≠ '\\')
    (visible : ¬ c.toNat < 0x20) (rest : List Char) :
    stringBody acc (c :: rest) = stringBody (c :: acc) rest := by
  rw [stringBody, if_neg visible]
  · exact quote
  all_goals
    intros
    exact backslash ‹_›

theorem stringBody_short (acc : List Char) {e c : Char} (short : shortEscape? e = some c)
    (rest : List Char) :
    stringBody acc ('\\' :: e :: rest) = stringBody (c :: acc) rest := by
  rw [stringBody, short]
  all_goals
    intros
    subst e
    cases short

theorem stringBody_hex (acc : List Char) {n : Nat} (control : n < 0x20) (rest : List Char) :
    stringBody acc ('\\' :: 'u' :: '0' :: '0' :: hexDigit (n / 16) :: hexDigit (n % 16) :: rest) =
      stringBody (Char.ofNat n :: acc) rest := by
  have hex : hex4? '0' '0' (hexDigit (n / 16)) (hexDigit (n % 16)) = some n := by
    have zero : Text.hexValue? '0' = some 0 := by decide
    have high : Text.hexValue? (hexDigit (n / 16)) = some (n / 16) :=
      Text.hexValue?_digitChar (by omega)
    have low : Text.hexValue? (hexDigit (n % 16)) = some (n % 16) :=
      Text.hexValue?_digitChar (by omega)
    simp only [hex4?, zero, high, low, Option.bind_eq_bind, Option.bind_some, Option.pure_def,
      Option.some.injEq]
    omega
  have paired : isLowSurrogate n = false ∧ isHighSurrogate n = false := by
    simp only [isLowSurrogate, isHighSurrogate, Bool.and_eq_false_iff, decide_eq_false_iff_not]
    omega
  rw [stringBody, hex]
  simp [paired]

/-- An escaped character reads as itself. -/
theorem stringBody_escapeChar (acc : List Char) (c : Char) (rest : List Char) :
    stringBody acc (escapeChar c ++ rest) = stringBody (c :: acc) rest := by
  unfold escapeChar
  split
  · rename_i h
    subst h
    exact stringBody_short acc rfl rest
  split
  · rename_i h
    subst h
    exact stringBody_short acc rfl rest
  split
  · rename_i control
    repeat (split; · rename_i h; subst h; exact stringBody_short acc rfl rest)
    have escaped := stringBody_hex acc control rest
    rwa [Char.ofNat_toNat] at escaped
  · rename_i quote backslash visible
    exact stringBody_plain acc quote backslash visible rest

theorem stringBody_escaped (acc cs rest : List Char) :
    stringBody acc (cs.flatMap escapeChar ++ '"' :: rest) = .ok (acc.reverse ++ cs, rest) := by
  induction cs generalizing acc with
  | nil => simp [stringBody]
  | cons c cs ih =>
    rw [List.flatMap_cons, List.append_assoc, stringBody_escapeChar, ih]
    simp

/-- What is printed as a string, behind its opening quote. -/
theorem stringBody_renderString (s : String) (rest : List Char) :
    ∃ body, renderString s ++ rest = '"' :: body ∧ stringBody [] body = .ok (s.toList, rest) := by
  refine ⟨s.toList.flatMap escapeChar ++ '"' :: rest, ?_, stringBody_escaped [] s.toList rest⟩
  simp [renderString]

/-! ## Values read back -/

/-- A value whose compact text is read as the value, wherever it stands and whatever comes behind
it. -/
def Reads (levels : Nat) (j : Json) : Prop :=
  ∀ fuel depth rest, 3 * j.render.length ≤ fuel → levels < depth →
    value fuel depth (j.render ++ rest) = .ok (j, rest)

/-- What does not go on with a number. -/
def Ends (rest : List Char) : Prop := ∀ c ∈ rest.head?, isNumeric c = false

theorem ends_nil : Ends [] := fun c h => by cases h

theorem ends_cons {c : Char} {rest : List Char} :
    Ends (c :: rest) ↔ isNumeric c = false := by simp [Ends]

theorem ends_renderItems (items : List Json) (rest : List Char) :
    Ends (renderItems items ++ rest) := by
  cases items with
  | nil => exact ends_cons.2 rfl
  | cons item items =>
    rw [renderItems]
    exact ends_cons.2 rfl

theorem ends_renderMembers (ms : List (String × Json)) (rest : List Char) :
    Ends (renderMembers ms ++ rest) := by
  cases ms with
  | nil => exact ends_cons.2 rfl
  | cons m ms =>
    obtain ⟨k, v⟩ := m
    rw [renderMembers]
    exact ends_cons.2 rfl

/-- A value whose compact text is read as the value where so many levels are left, if what comes
behind it ends it. -/
def ReadsAt (depth : Nat) (j : Json) : Prop :=
  ∀ fuel rest, 3 * j.render.length ≤ fuel → Ends rest → value fuel depth (j.render ++ rest) = .ok
    (j, rest)

theorem Reads.at {levels depth : Nat} {j : Json} (hj : Reads levels j) (deep : levels < depth) :
    ReadsAt depth j :=
  fun fuel rest enough _ => hj fuel depth rest enough deep

theorem value_quote (fuel depth : Nat) (body : List Char) :
    value (fuel + 1) depth ('"' :: body) =
      (stringBody [] body >>= fun r => pure (Json.string (String.ofList r.1), r.2)) := by
  rw [value]
  rfl

theorem value_brace {fuel depth : Nat} (deep : 1 < depth) {cs : List Char}
    (bare : afterQuotedKey? cs = none) :
    value (fuel + 1) depth ('\x7b' :: cs) =
      (members fuel (depth - 1) true cs >>= fun r => pure (ofMembers r.1, r.2)) := by
  rw [value]
  show (if depth ≤ 1 then _ else _) = _
  rw [if_neg (Nat.not_le.2 deep), bare]

theorem value_string (fuel depth : Nat) (s : String) (rest : List Char) :
    value (fuel + 1) depth ((Json.string s).render ++ rest) = .ok (.string s, rest) := by
  obtain ⟨body, printed, read⟩ := stringBody_renderString s rest
  rw [render, printed, value_quote, read]
  show Except.ok (Json.string (String.ofList s.toList), rest) = _
  rw [String.ofList_toList]

/-- A string reads back, whatever its characters. -/
theorem reads_string (s : String) : Reads 0 (.string s) := by
  intro fuel depth rest enough _
  have quotes : 0 < (Json.string s).render.length := by
    rw [render]
    exact Nat.succ_pos _
  obtain ⟨fuel, rfl⟩ : ∃ n, fuel = n + 1 := ⟨fuel - 1, by omega⟩
  exact value_string fuel depth s rest

/-- What is printed from a member on, from behind the opening quote of its name: the name comes
first, then its value. -/
theorem stringBody_member (front : Char) (k : String) (v : Json) (ms : List (String × Json))
    (rest : List Char) :
    ∃ body, (front :: renderString k ++ ':' :: v.render ++ renderMembers ms) ++
      rest = front :: '"' :: body ∧
      stringBody [] body = .ok (k.toList, ':' :: (v.render ++ (renderMembers ms ++ rest))) := by
  obtain ⟨body, printed, name⟩ :=
    stringBody_renderString k (':' :: (v.render ++ (renderMembers ms ++ rest)))
  refine ⟨body, ?_, name⟩
  rw [← printed]
  simp

/-- A member reads back if its value does. -/
theorem member_of_readsAt {fuel depth : Nat} {k : String} {v : Json} {ms : List (String × Json)}
    {body tail rest : List Char} (hv : ReadsAt depth v) (enough : 3 * v.render.length ≤ fuel)
    (ends : Ends tail) (name : stringBody [] body = .ok (k.toList, ':' :: (v.render ++ tail)))
    (more : members fuel depth false tail = .ok (ms, rest)) :
    member (fuel + 1) depth body = .ok ((k, v) :: ms, rest) := by
  rw [member, name]
  show (value fuel depth (v.render ++ tail) >>= _) = _
  rw [hv fuel tail enough ends]
  show (members fuel depth false tail >>= _) = _
  rw [more]
  show Except.ok ((String.ofList k.toList, v) :: ms, rest) = _
  rw [String.ofList_toList]

/-- So do the members behind the first. -/
theorem members_renderMembers {depth : Nat} {ms : List (String × Json)}
    (hms : ∀ m ∈ ms, ReadsAt depth m.2) {fuel : Nat} (rest : List Char)
    (enough : 3 * (renderMembers ms).length ≤ fuel) :
    members fuel depth false (renderMembers ms ++ rest) = .ok (ms, rest) := by
  induction ms generalizing fuel with
  | nil =>
    obtain ⟨fuel, rfl⟩ : ∃ n, fuel = n + 1 := ⟨fuel - 1, by simp [renderMembers] at enough; omega⟩
    rw [members]
    rfl
  | cons m ms ih =>
    obtain ⟨k, v⟩ := m
    obtain ⟨hv, hms⟩ := List.forall_mem_cons.1 hms
    rw [renderMembers] at enough ⊢
    obtain ⟨body, shape, name⟩ := stringBody_member ',' k v ms rest
    simp only [List.cons_append, List.length_cons, List.length_append] at enough
    obtain ⟨fuel, rfl⟩ : ∃ n, fuel = n + 1 + 1 := ⟨fuel - 2, by omega⟩
    have read : member (fuel + 1) depth body = .ok ((k, v) :: ms, rest) :=
      member_of_readsAt hv (by omega) (ends_renderMembers ms rest) name (ih hms (by omega))
    rw [shape, members]
    exact read

theorem reads_empty (levels : Nat) : Reads (levels + 1) (.object []) := by
  intro fuel depth rest enough deep
  rw [render] at enough ⊢
  simp only [List.length_cons, List.length_nil] at enough
  obtain ⟨fuel, rfl⟩ : ∃ n, fuel = n + 1 + 1 := ⟨fuel - 2, by omega⟩
  rw [List.cons_append, value_brace (by omega) rfl, List.singleton_append, members]
  rfl

theorem afterQuotedKey?_of_name {k : String} {body rest : List Char}
    (name : stringBody [] body = .ok (k.toList, rest)) :
    afterQuotedKey? ('"' :: body) = if k = quotedKey then some rest else none := by
  have front : skipSpaces ('"' :: body) = '"' :: body := rfl
  simp only [afterQuotedKey?, front, name, String.toList_inj]

/-- An object is read as it is, if there is a level left for its members, which read back there. -/
theorem value_object {depth : Nat} (deep : 1 < depth) {k : String} {v : Json}
    {ms : List (String × Json)} (ordered : Entries.Ordered ((k, v) :: ms)) (bare : k ≠ quotedKey)
    (hv : ReadsAt (depth - 1) v) (hms : ∀ m ∈ ms, ReadsAt (depth - 1) m.2) {fuel : Nat}
    (rest : List Char) (enough : 3 * (Json.object ((k, v) :: ms)).render.length ≤ fuel) :
    value fuel depth ((Json.object ((k, v) :: ms)).render ++ rest) = .ok
      (.object ((k, v) :: ms), rest) := by
  rw [render] at enough ⊢
  obtain ⟨body, shape, name⟩ := stringBody_member '\x7b' k v ms rest
  simp only [List.cons_append, List.length_cons, List.length_append] at enough
  obtain ⟨fuel, rfl⟩ : ∃ n, fuel = n + 1 + 1 + 1 := ⟨fuel - 3, by omega⟩
  have unquoted : afterQuotedKey? ('"' :: body) = none := by
    rw [afterQuotedKey?_of_name name, if_neg bare]
  have more : members fuel (depth - 1) false (renderMembers ms ++ rest) = .ok (ms, rest) :=
    members_renderMembers hms rest (by omega)
  have read : members (fuel + 1 + 1) (depth - 1) true ('"' :: body) = .ok ((k, v) :: ms, rest) := by
    rw [members]
    exact member_of_readsAt hv (by omega) (ends_renderMembers ms rest) name more
  rw [shape, value_brace deep unquoted, read]
  show Except.ok (ofMembers ((k, v) :: ms), rest) = _
  rw [ofMembers, Entries.ofList_of_ordered ordered]

/-- **An object reads back** if its members do, are in order, and the first is not named as that of
a quoted value. -/
theorem reads_object {levels : Nat} {k : String} {v : Json} {ms : List (String × Json)}
    (ordered : Entries.Ordered ((k, v) :: ms)) (bare : k ≠ quotedKey) (hv : Reads levels v)
    (hms : ∀ m ∈ ms, Reads levels m.2) :
    Reads (levels + 1) (.object ((k, v) :: ms)) := fun _ _ rest enough deep =>
  value_object (by omega) ordered bare (hv.at (by omega)) (fun m hm => (hms m hm).at (by omega))
    rest enough

/-- An object reads back if it is put together from members that do. -/
theorem reads_ofMembers {levels : Nat} {ms : List (String × Json)}
    (bare : ∀ m ∈ ms, m.1 ≠ quotedKey) (hms : ∀ m ∈ ms, Reads levels m.2) :
    Reads (levels + 1) (ofMembers ms) := by
  have ordered := Entries.ordered_ofList ms
  have among : ∀ m ∈ Entries.ofList ms, m ∈ ms := fun m hm => Entries.mem_of_mem_ofList hm
  unfold ofMembers
  generalize Entries.ofList ms = sorted at ordered among
  cases sorted with
  | nil => exact reads_empty levels
  | cons m rest =>
    obtain ⟨hm, hrest⟩ := List.forall_mem_cons.1 among
    exact reads_object ordered (bare m hm) (hms m hm) fun n hn => hms n (hrest n hn)

end Reader

/-- What reads back is what its compact text is parsed as. -/
theorem parse_text_of_readsAt {j : Json} (hj : Reader.ReadsAt Reader.depthLimit j) :
    parse j.text = .ok j := by
  unfold parse text Reader.document
  rw [String.toList_ofList]
  have read := hj (3 * j.render.length + 3) [] (Nat.le_add_right _ 3) Reader.ends_nil
  rw [List.append_nil] at read
  rw [read]
  rfl

theorem parse_text {levels : Nat} {j : Json} (hj : Reader.Reads levels j)
    (deep : levels < Reader.depthLimit) :
    parse j.text = .ok j :=
  parse_text_of_readsAt (hj.at deep)

end Json

end Reindex
