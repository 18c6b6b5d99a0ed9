import Reindex.Proofs.Json.Numerals

/-!
# What survives being written and read

A value survives if it is read back from its compact text. Whether it does is a matter of its parts:
a text is read without regard to what stands around it, so what survives inside of one object
survives inside of another.

Not all that is read from a text survives. A number is written with the digits nearest to it and may
be read as one of its neighbours, and an object whose first member is named as that of a quoted
value is taken for one.

Main statements: `Json.Reader.readsAt_iff_settled`, by which the parts decide, and
`Json.Survives.mergeInto`.
-/

namespace Reindex

namespace Dict

variable {α : Type} {into d : Dict α}

theorem mem_of_mem_mergeInto {e : String × α} (h : e ∈ (into.mergeInto d).entries) :
    e ∈ d.entries ∨ e ∈ into.entries := by
  obtain ⟨key, value⟩ := e
  rw [mem_entries_iff, get?_mergeInto] at h
  rw [mem_entries_iff, mem_entries_iff]
  cases own : d.get? key with
  | none => exact .inr (by rwa [own] at h)
  | some v => exact .inl (by rwa [own] at h)

theorem mem_keys_mergeInto {key : String} :
    key ∈ (into.mergeInto d).keys ↔ key ∈ d.keys ∨ key ∈ into.keys := by
  rw [mem_keys, contains_mergeInto, Bool.or_eq_true, ← mem_keys, ← mem_keys]

end Dict

namespace Json

namespace Reader

/-! ## Values -/

theorem render_cons (j : Json) :
    ∃ c cs, j.render = c :: cs ∧ isSpace c = false ∧ c ≠ ']' ∧ (c = '"' → ∃ s, j = .string s) := by
  have other {c : Char} (h : c ≠ '"') : c = '"' → ∃ s, j = .string s := fun quote => absurd quote h
  cases j with
  | null => exact ⟨'n', _, rfl, rfl, by decide, other (by decide)⟩
  | bool b => cases b <;> exact ⟨_, _, rfl, rfl, by decide, other (by decide)⟩
  | number n =>
    rw [render]
    rcases renderNumber_numeric n with null | ⟨nonempty, numeric⟩
    · exact ⟨_, _, null, rfl, by decide, other (by decide)⟩
    · obtain ⟨c, cs, printed⟩ := List.exists_cons_of_ne_nil nonempty
      rw [printed] at numeric ⊢
      have first := numeric c (.head cs)
      refine ⟨c, cs, rfl, isSpace_of_numeric first, ?_, other ?_⟩ <;> rintro rfl <;> cases first
  | string s => exact ⟨'"', _, by rw [render]; rfl, rfl, by decide, fun _ => ⟨s, rfl⟩⟩
  | array items =>
    cases items with
    | nil => exact ⟨'[', _, by rw [render], rfl, by decide, other (by decide)⟩
    | cons item items => exact ⟨'[', _, by rw [render]; rfl, rfl, by decide, other (by decide)⟩
  | object ms =>
    cases ms with
    | nil => exact ⟨'\x7b', _, by rw [render], rfl, by decide, other (by decide)⟩
    | cons m ms => exact ⟨'\x7b', _, by rw [render]; rfl, rfl, by decide, other (by decide)⟩

theorem skipSpaces_render (j : Json) (more : List Char) :
    skipSpaces (j.render ++ more) = j.render ++ more := by
  obtain ⟨c, cs, printed, visible, -, -⟩ := render_cons j
  rw [printed]
  exact skipSpaces_of_visible visible (cs ++ more)

/-- An item and those behind it. -/
def itemThen (fuel depth : Nat) (cs : List Char) : Except Stop (List Json × List Char) := do
  let (item, rest) ← value fuel depth cs
  let (more, rest) ← items fuel depth false rest
  return (item :: more, rest)

theorem items_first (fuel depth : Nat) (item : Json) (more : List Char) :
    items (fuel + 1) depth true (item.render ++ more) = itemThen fuel depth
      (item.render ++ more) := by
  obtain ⟨c, cs, printed, -, unclosed, -⟩ := render_cons item
  have front := skipSpaces_render item more
  rw [printed, List.cons_append] at front ⊢
  rw [items, front]
  split
  · rename_i shape
    cases shape
  · rename_i shape
    cases shape
    exact absurd rfl unclosed
  · rename_i shape
    cases shape
    rfl

theorem items_comma (fuel depth : Nat) (item : Json) (more : List Char) :
    items (fuel + 1) depth false (',' :: (item.render ++ more)) = itemThen fuel depth
      (item.render ++ more) := by
  obtain ⟨c, cs, printed, -, unclosed, -⟩ := render_cons item
  have comma : skipSpaces (',' :: (item.render ++ more)) = ',' :: (item.render ++ more) := rfl
  have front := skipSpaces_render item more
  rw [printed, List.cons_append] at comma front ⊢
  rw [items, comma]
  split
  · rename_i shape
    cases shape
  · rename_i shape
    cases shape
  · rename_i shape
    cases shape
    rw [if_neg (by decide), if_pos rfl, front]
    split
    · rename_i shape
      cases shape
    · rename_i shape
      cases shape
      exact absurd rfl unclosed
    · rfl

/-- Items read back behind each other if each one does. -/
theorem items_renderItems {depth : Nat} {js : List Json} (hjs : ∀ j ∈ js, ReadsAt depth j)
    {fuel : Nat} (rest : List Char) (enough : 3 * (renderItems js).length ≤ fuel) :
    items fuel depth false (renderItems js ++ rest) = .ok (js, rest) := by
  induction js generalizing fuel with
  | nil =>
    obtain ⟨fuel, rfl⟩ : ∃ n, fuel = n + 1 := ⟨fuel - 1, by simp [renderItems] at enough; omega⟩
    rw [items]
    rfl
  | cons j js ih =>
    obtain ⟨hj, hjs⟩ := List.forall_mem_cons.1 hjs
    rw [renderItems] at enough ⊢
    simp only [List.cons_append, List.length_cons, List.length_append] at enough
    obtain ⟨fuel, rfl⟩ : ∃ n, fuel = n + 1 := ⟨fuel - 1, by omega⟩
    rw [List.cons_append, List.cons_append, List.append_assoc, items_comma, itemThen,
      hj fuel _ (by omega) (ends_renderItems js rest)]
    show (items fuel depth false (renderItems js ++ rest) >>= _) = _
    rw [ih hjs (by omega)]
    rfl

theorem value_bracket {fuel depth : Nat} (deep : 1 < depth) (cs : List Char) :
    value (fuel + 1) depth ('[' :: cs) =
      (items fuel (depth - 1) true cs >>= fun r => pure (Json.array r.1, r.2)) := by
  rw [value]
  show (if depth ≤ 1 then _ else _) = _
  rw [if_neg (Nat.not_le.2 deep)]

/-- The first member is not named as that of a quoted value. -/
def Bare (ms : List (String × Json)) : Prop := ∀ m ∈ ms.head?, m.1 ≠ quotedKey

/-- What makes a value read back where so many levels are left: there is one for its parts, which
read back there, and the members of an object are in order and not taken for a quoted value. -/
def Settled (depth : Nat) : Json → Prop
  | .array js => 1 < depth ∧ ∀ j ∈ js, ReadsAt (depth - 1) j
  | .object ms => 1 < depth ∧ Entries.Ordered ms ∧ Bare ms ∧ ∀ m ∈ ms, ReadsAt (depth - 1) m.2
  | j => ReadsAt depth j

theorem Settled.readsAt {depth : Nat} {j : Json} (h : Settled depth j) : ReadsAt depth j := by
  cases j with
  | array js =>
    obtain ⟨deep, hjs⟩ := h
    intro fuel rest enough ends
    cases js with
    | nil =>
      rw [render] at enough ⊢
      obtain ⟨fuel, rfl⟩ : ∃ n, fuel = n + 1 + 1 := ⟨fuel - 2, by simp at enough; omega⟩
      rw [List.cons_append, value_bracket deep, List.singleton_append, items]
      rfl
    | cons j js =>
      obtain ⟨hj, hjs⟩ := List.forall_mem_cons.1 hjs
      rw [render] at enough ⊢
      simp only [List.cons_append, List.length_cons, List.length_append] at enough
      obtain ⟨fuel, rfl⟩ : ∃ n, fuel = n + 1 + 1 := ⟨fuel - 2, by omega⟩
      rw [List.cons_append, List.cons_append, List.append_assoc, value_bracket deep, items_first,
        itemThen, hj fuel _ (by omega) (ends_renderItems js rest)]
      show ((items fuel (depth - 1) false (renderItems js ++ rest) >>= _) >>= _) = _
      rw [items_renderItems hjs rest (by omega)]
      rfl
  | object ms =>
    obtain ⟨deep, ordered, bare, hms⟩ := h
    cases ms with
    | nil => exact (reads_empty 0).at deep
    | cons m ms =>
      obtain ⟨hv, hms⟩ := List.forall_mem_cons.1 hms
      exact fun fuel rest enough _ => value_object deep ordered (bare m rfl) hv hms rest enough
  | _ => exact h

theorem ends_of_items {fuel depth : Nat} {cs rest : List Char} {js : List Json}
    (h : items fuel depth false cs = .ok (js, rest)) : Ends cs := by
  refine ends_of_skipSpaces fun c more front => ?_
  obtain _ | fuel := fuel
  · rw [items] at h
    cases h
  · rw [items, front] at h
    split at h
    · cases h
    · rename_i shape
      cases shape
      rfl
    · rename_i shape
      cases shape
      rw [if_neg (by decide)] at h
      split at h
      · rename_i comma
        subst comma
        rfl
      · cases h

theorem ends_of_members {fuel depth : Nat} {cs rest : List Char} {ms : List (String × Json)}
    (h : members fuel depth false cs = .ok (ms, rest)) : Ends cs := by
  refine ends_of_skipSpaces fun c more front => ?_
  obtain _ | fuel := fuel
  · rw [members] at h
    cases h
  · rw [members, front] at h
    split at h
    · cases h
    · rename_i shape
      cases shape
      rfl
    · rename_i shape
      cases shape
      rw [if_neg (by decide)] at h
      split at h
      · rename_i comma
        subst comma
        rfl
      · cases h

/-! ## What reading goes through -/

theorem of_itemThen {fuel depth : Nat} {cs rest : List Char} {js : List Json}
    (h : itemThen fuel depth cs = .ok (js, rest)) :
    ∃ item behind more, value fuel depth cs = .ok (item, behind) ∧
      items fuel depth false behind = .ok (more, rest) ∧
      js = item :: more := by
  obtain ⟨⟨item, behind⟩, read, h⟩ := exceptBind_eq_ok h
  obtain ⟨⟨more, _⟩, others, h⟩ := exceptBind_eq_ok h
  cases h
  exact ⟨item, behind, more, read, others, rfl⟩

theorem of_member {fuel depth : Nat} {k : String} {body tail rest : List Char}
    {ms : List (String × Json)} (name : stringBody [] body = .ok (k.toList, ':' :: tail))
    (h : member fuel depth body = .ok (ms, rest)) :
    ∃ fuel v behind more, value fuel depth tail = .ok (v, behind) ∧
      members fuel depth false behind = .ok (more, rest) ∧
      ms = (k, v) :: more := by
  obtain _ | fuel := fuel
  · rw [member] at h
    cases h
  · rw [member, name] at h
    change (value fuel depth tail >>= _) = _ at h
    obtain ⟨⟨v, behind⟩, read, h⟩ := exceptBind_eq_ok h
    obtain ⟨⟨more, _⟩, others, h⟩ := exceptBind_eq_ok h
    cases h
    exact ⟨fuel, v, behind, more, read, others, by rw [String.ofList_toList]⟩

theorem of_value_bracket {fuel depth : Nat} {cs rest : List Char} {j : Json}
    (h : value fuel depth ('[' :: cs) = .ok (j, rest)) :
    ∃ fuel js, 1 < depth ∧ items fuel (depth - 1) true cs = .ok (js, rest) ∧ j = .array js := by
  obtain _ | fuel := fuel
  · rw [value] at h
    cases h
  · by_cases deep : 1 < depth
    · rw [value_bracket deep] at h
      obtain ⟨⟨js, _⟩, read, h⟩ := exceptBind_eq_ok h
      cases h
      exact ⟨fuel, js, deep, read, rfl⟩
    · rw [value] at h
      cases (if_pos (Nat.not_lt.1 deep)).symm.trans h

theorem of_value_brace {fuel depth : Nat} {cs rest : List Char} {j : Json}
    (h : value fuel depth ('\x7b' :: cs) = .ok (j, rest)) : 1 < depth ∧
      ((afterQuotedKey? cs = none ∧
          ∃ fuel pairs, members fuel (depth - 1) true cs = .ok (pairs, rest) ∧
            j = ofMembers pairs) ∨
        ∃ behind text past, afterQuotedKey? cs = some behind ∧
          quotedText behind = .ok (text, past) ∧
          endQuoted past = .ok rest) := by
  obtain _ | fuel := fuel
  · rw [value] at h
    cases h
  · by_cases deep : 1 < depth
    · refine ⟨deep, ?_⟩
      cases quoted : afterQuotedKey? cs with
      | none =>
        rw [value_brace deep quoted] at h
        obtain ⟨⟨pairs, _⟩, read, h⟩ := exceptBind_eq_ok h
        cases h
        exact .inl ⟨rfl, fuel, pairs, read, rfl⟩
      | some behind =>
        rw [value] at h
        have h := (if_neg (Nat.not_le.2 deep)).symm.trans h
        rw [quoted] at h
        obtain ⟨⟨text, past⟩, read, h⟩ := exceptBind_eq_ok h
        obtain ⟨_, -, h⟩ := exceptBind_eq_ok h
        obtain ⟨_, closed, h⟩ := exceptBind_eq_ok h
        cases h
        exact .inr ⟨behind, text, past, rfl, read, closed⟩
    · rw [value] at h
      cases (if_pos (Nat.not_lt.1 deep)).symm.trans h

/-! ## Quoted values -/

theorem misplaced_ne_ok {α : Type} {cs : List Char} {a : α} : misplaced cs ≠ .ok a := by
  intro h
  unfold misplaced at h
  dsimp only at h
  split at h
  · obtain ⟨_, -, h⟩ := exceptBind_eq_ok h
    cases h
  · obtain ⟨_, -, h⟩ := exceptBind_eq_ok h
    cases h
  · obtain ⟨_, -, h⟩ := exceptBind_eq_ok h
    cases h
  · obtain ⟨_, -, h⟩ := exceptBind_eq_ok h
    cases h
  · cases h
  · cases h
  · split at h
    · obtain ⟨_, -, h⟩ := exceptBind_eq_ok h
      cases h
    · cases h
  · cases h

/-- Where the text of a quoted value is expected, only a string is read. -/
theorem past_of_quotedText {v : Json} {more text past : List Char}
    (h : quotedText (':' :: (v.render ++ more)) = .ok (text, past)) : past = more := by
  have colon : skipSpaces (':' :: (v.render ++ more)) = ':' :: (v.render ++ more) := rfl
  have front := skipSpaces_render v more
  obtain ⟨c, cs, printed, -, -, string⟩ := render_cons v
  unfold quotedText at h
  split at h
  · cases h
  · rename_i shape
    cases colon.symm.trans shape
    rw [front] at h
    by_cases quote : c = '"'
    · obtain ⟨s, rfl⟩ := string quote
      obtain ⟨body, shape, read⟩ := stringBody_renderString s more
      rw [render, shape] at h
      cases read.symm.trans h
      rfl
    · rw [printed] at h
      split at h
      · rename_i shape
        cases shape
        exact absurd rfl quote
      · exact absurd h misplaced_ne_ok
  · cases h

theorem nil_of_endQuoted {ms : List (String × Json)} {rest rest' : List Char}
    (h : endQuoted (renderMembers ms ++ rest) = .ok rest') : ms = [] ∧ rest' = rest := by
  cases ms with
  | nil =>
    cases h
    exact ⟨rfl, rfl⟩
  | cons m ms =>
    obtain ⟨k, v⟩ := m
    rw [renderMembers] at h
    cases h

/-- The first of the members that are read is not named as that of a quoted value, where none is
seen. -/
theorem bare_of_members {fuel depth : Nat} {cs rest : List Char} {ms : List (String × Json)}
    (unquoted : afterQuotedKey? cs = none) (h : members fuel depth true cs = .ok (ms, rest)) :
    Bare ms := by
  obtain _ | fuel := fuel
  · rw [members] at h
    cases h
  rw [members] at h
  split at h
  · cases h
  · cases h
    exact fun m hm => by cases hm
  · rename_i c body _ front
    rw [if_pos rfl] at h
    split at h
    · rename_i quote
      subst quote
      obtain _ | fuel := fuel
      · rw [member] at h
        cases h
      rw [member] at h
      obtain ⟨⟨name, behind⟩, read, h⟩ := exceptBind_eq_ok h
      dsimp only at h
      split at h
      · cases h
      · obtain ⟨⟨v, _⟩, -, h⟩ := exceptBind_eq_ok h
        obtain ⟨⟨more, _⟩, -, h⟩ := exceptBind_eq_ok h
        cases h
        intro m hm same
        cases hm
        have named : name = quotedKey.toList := by rw [← same, String.toList_ofList]
        simp [afterQuotedKey?, front, read, named] at unquoted
      · cases h
    · cases h

/-- Nothing is read as an object with no member but one that is named as that of a quoted value. -/
theorem value_ne_quoted (fuel : Nat) {depth : Nat} {cs rest : List Char} {v : Json} :
    value fuel depth cs ≠ .ok (.object [(quotedKey, v)], rest) := by
  induction fuel generalizing depth cs rest with
  | zero =>
    intro h
    rw [value] at h
    cases h
  | succ fuel ih =>
    intro h
    obtain ⟨_, _, pairs, _, unquoted, listed, same⟩ | ⟨_, _, _, inner⟩ := object_of_value h
    · have bare := bare_of_members unquoted listed
      cases pairs with
      | nil => cases same
      | cons p pairs =>
        obtain ⟨w, kept⟩ := Entries.exists_mem_ofList (List.mem_cons_self (a := p) (l := pairs))
        rw [← same] at kept
        exact bare p rfl (Prod.mk.inj (List.mem_singleton.1 kept)).1
    · exact ih inner

/-! ## What reads back once -/

/-- What is read at the first step is read as a whole, and wherever it stands. -/
theorem exact_of_step {j j' : Json} {fuel depth : Nat} {rest rest' : List Char}
    (step : ∀ fuel rest, value (fuel + 1) depth (j.render ++ rest) = .ok (j, rest))
    (read : value fuel depth (j.render ++ rest) = .ok (j', rest')) :
    rest' = rest ∧ ReadsAt depth j := by
  obtain _ | fuel := fuel
  · rw [value] at read
    cases read
  · cases (step fuel rest).symm.trans read
    refine ⟨rfl, fun fuel rest enough _ => ?_⟩
    obtain ⟨c, cs, printed, -⟩ := render_cons j
    obtain ⟨fuel, rfl⟩ : ∃ n, fuel = n + 1 := ⟨fuel - 1, by simp [printed] at enough; omega⟩
    exact step fuel rest

theorem ordered_of_names {α : Type} {es fs : List (String × α)}
    (names : es.map (·.1) = fs.map (·.1)) (ordered : Entries.Ordered fs) : Entries.Ordered es := by
  have apart : (fs.map (·.1)).Pairwise (· < ·) := List.pairwise_map.2 ordered
  rw [← names] at apart
  exact List.pairwise_map.1 apart

mutual
/-- **A compact text is read as a whole,** if what comes behind it ends it. If it is read as the
value once, then wherever it stands. -/
theorem exact_value : (j : Json) → ∀ {fuel depth : Nat} {j' : Json} {rest rest' : List Char},
    value fuel depth (j.render ++ rest) = .ok (j', rest') → Ends rest → Ends rest' →
      rest' = rest ∧ (j' = j → Settled depth j)
  | .null, _, _, _, _, _, read, _, _ =>
    (exact_of_step (fun _ _ => by rw [value]; rfl) read).imp_right fun reads _ => reads
  | .bool true, _, _, _, _, _, read, _, _ =>
    (exact_of_step (fun _ _ => by rw [value]; rfl) read).imp_right fun reads _ => reads
  | .bool false, _, _, _, _, _, read, _, _ =>
    (exact_of_step (fun _ _ => by rw [value]; rfl) read).imp_right fun reads _ => reads
  | .number n, _, _, _, _, _, read, ends, ends' => by
    rw [render] at read
    exact exact_number read ends ends'
  | .string s, _, depth, _, _, _, read, _, _ =>
    (exact_of_step (fun fuel rest => value_string fuel depth s rest) read).imp_right fun reads _ =>
      reads
  | .array [], _, _, _, _, _, read, _, _ => by
    rw [render] at read
    obtain ⟨fuel, js, deep, read, rfl⟩ := of_value_bracket read
    obtain _ | fuel := fuel <;> rw [Reader.items] at read <;> cases read
    exact ⟨rfl, fun _ => ⟨deep, nofun⟩⟩
  | .array (item :: items), _, _, _, rest, _, read, _, _ => by
    rw [render, List.cons_append, List.cons_append, List.append_assoc] at read
    obtain ⟨fuel, js, deep, read, rfl⟩ := of_value_bracket read
    obtain _ | fuel := fuel
    · rw [Reader.items] at read
      cases read
    rw [items_first] at read
    obtain ⟨item', behind, more, first, others, rfl⟩ := of_itemThen read
    obtain ⟨rfl, settled⟩ :=
      exact_value item first (ends_renderItems items rest) (ends_of_items others)
    obtain ⟨past, readsAll⟩ := exact_items items others
    refine ⟨past, fun same => ⟨deep, ?_⟩⟩
    cases same
    exact List.forall_mem_cons.2 ⟨(settled rfl).readsAt, readsAll rfl⟩
  | .object [], _, _, _, _, _, read, _, _ => by
    rw [render] at read
    obtain ⟨deep, ⟨-, fuel, pairs, read, rfl⟩ | ⟨behind, _, _, quoted, -, -⟩⟩ := of_value_brace read
    · obtain _ | fuel := fuel <;> rw [Reader.members] at read <;> cases read
      exact ⟨rfl, fun _ => ⟨deep, Entries.ordered_nil, nofun, nofun⟩⟩
    · cases quoted
  | .object ((k, v) :: ms), _, _, _, rest, _, read, _, _ => by
    have whole := read
    rw [render] at read
    obtain ⟨body, shape, name⟩ := stringBody_member '\x7b' k v ms rest
    rw [shape] at read
    obtain ⟨deep, ⟨unquoted, fuel, pairs, read, rfl⟩ | ⟨behind, _, past, quoted, text, closed⟩⟩ :=
      of_value_brace read
    · rw [afterQuotedKey?_of_name name] at unquoted
      have bare : k ≠ quotedKey := fun same => by rw [if_pos same] at unquoted; cases unquoted
      obtain _ | fuel := fuel
      · rw [Reader.members] at read
        cases read
      rw [Reader.members] at read
      obtain ⟨fuel, v', behind, more, first, others, rfl⟩ := of_member name read
      obtain ⟨rfl, settled⟩ :=
        exact_value v first (ends_renderMembers ms rest) (ends_of_members others)
      obtain ⟨past, names, readsAll⟩ := exact_members ms others
      refine ⟨past, fun same => ?_⟩
      have listed : Listed (.object ((k, v) :: ms)) := same ▸ listed_of_value whole
      have ordered : Entries.Ordered ((k, v') :: more) := ordered_of_names (by simp [names]) listed
      rw [ofMembers, Entries.ofList_of_ordered ordered] at same
      cases same
      exact ⟨deep, listed, fun m hm => by cases hm; exact bare,
        List.forall_mem_cons.2 ⟨(settled rfl).readsAt, readsAll rfl⟩⟩
    · rw [afterQuotedKey?_of_name name] at quoted
      split at quoted
      · rename_i named
        cases quoted
        obtain rfl := past_of_quotedText text
        obtain ⟨rfl, rfl⟩ := nil_of_endQuoted closed
        refine ⟨rfl, fun same => ?_⟩
        subst named same
        exact absurd whole (value_ne_quoted _)
      · cases quoted
theorem exact_items :
    (js : List Json) → ∀ {fuel depth : Nat} {js' : List Json} {rest rest' : List Char},
    items fuel depth false (renderItems js ++ rest) = .ok (js', rest') →
      rest' = rest ∧ (js' = js → ∀ j ∈ js, ReadsAt depth j)
  | [], fuel, _, _, _, _, read => by
    obtain _ | fuel := fuel <;> rw [renderItems, Reader.items] at read <;> cases read
    exact ⟨rfl, fun _ => nofun⟩
  | j :: js, fuel, _, _, rest, _, read => by
    obtain _ | fuel := fuel
    · rw [Reader.items] at read
      cases read
    rw [renderItems, List.cons_append, List.cons_append, List.append_assoc, items_comma] at read
    obtain ⟨j', behind, more, first, others, rfl⟩ := of_itemThen read
    obtain ⟨rfl, settled⟩ := exact_value j first (ends_renderItems js rest) (ends_of_items others)
    obtain ⟨past, readsAll⟩ := exact_items js others
    refine ⟨past, fun same => ?_⟩
    cases same
    exact List.forall_mem_cons.2 ⟨(settled rfl).readsAt, readsAll rfl⟩
theorem exact_members : (ms : List (String × Json)) →
    ∀ {fuel depth : Nat} {ms' : List (String × Json)} {rest rest' : List Char},
    members fuel depth false (renderMembers ms ++ rest) = .ok (ms', rest') →
      rest' = rest ∧ ms'.map (·.1) = ms.map (·.1) ∧ (ms' = ms → ∀ m ∈ ms, ReadsAt depth m.2)
  | [], fuel, _, _, _, _, read => by
    obtain _ | fuel := fuel <;> rw [renderMembers, Reader.members] at read <;> cases read
    exact ⟨rfl, rfl, fun _ => nofun⟩
  | (k, v) :: ms, fuel, _, _, rest, _, read => by
    obtain ⟨body, shape, name⟩ := stringBody_member ',' k v ms rest
    rw [renderMembers, shape] at read
    obtain _ | fuel := fuel
    · rw [Reader.members] at read
      cases read
    rw [Reader.members] at read
    obtain ⟨fuel, v', behind, more, first, others, rfl⟩ := of_member name read
    obtain ⟨rfl, settled⟩ :=
      exact_value v first (ends_renderMembers ms rest) (ends_of_members others)
    obtain ⟨past, names, readsAll⟩ := exact_members ms others
    refine ⟨past, by simp [names], fun same => ?_⟩
    cases same
    exact List.forall_mem_cons.2 ⟨(settled rfl).readsAt, readsAll rfl⟩
end

/-- **The parts decide** whether a value reads back. -/
theorem readsAt_iff_settled {depth : Nat} {j : Json} : ReadsAt depth j ↔ Settled depth j :=
  ⟨fun reads => (exact_value j (reads _ [] (Nat.le_refl _) ends_nil) ends_nil ends_nil).2 rfl,
    Settled.readsAt⟩

end Reader

/-! ## Texts -/

/-- A value that its compact text is parsed as. -/
def Survives (j : Json) : Prop := parse j.text = .ok j

theorem survives_iff_readsAt {j : Json} : j.Survives ↔ Reader.ReadsAt Reader.depthLimit j := by
  refine ⟨fun parsed => ?_, parse_text_of_readsAt⟩
  have parsed := Reader.mapError_eq_ok parsed
  unfold text Reader.document at parsed
  rw [String.toList_ofList] at parsed
  obtain ⟨⟨i, rest⟩, read, filled⟩ := exceptBind_eq_ok parsed
  have ends : Reader.Ends rest := by
    refine Reader.ends_of_skipSpaces fun c more front => ?_
    dsimp only at filled
    rw [front] at filled
    cases filled
  have same : i = j := by
    dsimp only at filled
    split at filled <;> cases filled
    rfl
  rw [← List.append_nil j.render] at read
  exact ((Reader.exact_value j read Reader.ends_nil ends).2 same).readsAt

/-- Where members are in order, the first has the least of the names. -/
theorem Reader.bare_iff {ms : List (String × Json)} (ordered : Entries.Ordered ms) :
    Bare ms ↔ (quotedKey ∈ ms.map (·.1) → ∃ name ∈ ms.map (·.1), name < quotedKey) := by
  cases ms with
  | nil => exact ⟨fun _ => nofun, fun _ => nofun⟩
  | cons m ms =>
    have first : ∀ name ∈ ms.map (·.1), m.1 < name := by
      rw [List.forall_mem_map]
      exact (List.pairwise_cons.1 ordered).1
    rw [List.map_cons]
    constructor
    · intro bare named
      rcases List.mem_cons.1 named with same | later
      · exact absurd same.symm (bare m rfl)
      · exact ⟨m.1, .head _, first _ later⟩
    · intro smaller n hn named
      cases hn
      obtain ⟨name, among, less⟩ := smaller (named ▸ .head _)
      rw [← named] at less
      rcases List.mem_cons.1 among with rfl | later
      · exact String.lt_irrefl _ less
      · exact String.lt_irrefl _ (String.lt_trans less (first name later))

theorem Reader.settled_mergeInto {depth : Nat} {base members : Dict Json}
    (hb : Settled depth (.object base.entries)) (hm : Settled depth (.object members.entries)) :
    Settled depth (.object (base.mergeInto members).entries) := by
  obtain ⟨deep, -, bareBase, readsBase⟩ := hb
  obtain ⟨-, -, bareMembers, readsMembers⟩ := hm
  refine ⟨deep, (base.mergeInto members).ordered, ?_, fun m hm =>
    (Dict.mem_of_mem_mergeInto hm).elim (readsMembers m) (readsBase m)⟩
  rw [bare_iff (Dict.ordered _)] at *
  intro named
  rcases Dict.mem_keys_mergeInto.1 named with named | named
  · obtain ⟨name, among, less⟩ := bareMembers named
    exact ⟨name, Dict.mem_keys_mergeInto.2 (.inl among), less⟩
  · obtain ⟨name, among, less⟩ := bareBase named
    exact ⟨name, Dict.mem_keys_mergeInto.2 (.inr among), less⟩

/-- **An object survives with the members of another,** if both survive. -/
theorem Survives.mergeInto {base members : Dict Json} (hb : Survives (.object base.entries))
    (hm : Survives (.object members.entries)) :
    Survives (.object (base.mergeInto members).entries) := by
  rw [survives_iff_readsAt, Reader.readsAt_iff_settled] at *
  exact Reader.settled_mergeInto hb hm

/-- A text whose value, if it has one, is read back from its own compact text. -/
def Reparses (text : String) : Prop := ∀ j, parse text = .ok j → j.Survives

theorem survives_iff_toOption {j : Json} : j.Survives ↔ (parse j.text).toOption = some j := by
  unfold Survives
  cases parse j.text with
  | error e => exact ⟨nofun, nofun⟩
  | ok i => exact ⟨fun h => by cases h; rfl, fun h => by cases h; rfl⟩

instance (j : Json) : Decidable j.Survives := decidable_of_iff _ survives_iff_toOption.symm

theorem reparses_iff {text : String} :
    Reparses text ↔ ((parse text).toOption.all fun j => decide j.Survives) = true := by
  unfold Reparses
  cases parse text with
  | error e => exact ⟨fun _ => rfl, fun _ => nofun⟩
  | ok j => exact ⟨fun h => decide_eq_true (h j rfl), fun h i same =>
    by cases same; exact of_decide_eq_true h⟩

instance (text : String) : Decidable (Reparses text) := decidable_of_iff _ reparses_iff.symm

theorem Survives.reparses {j : Json} (h : j.Survives) : Reparses j.text := fun i parsed => by
  cases h.symm.trans parsed
  exact h

-- read as an object with two members, of which the one that is written first makes it a quoted
-- value
example : ¬ Reparses "\x7b\"b\":1,\"$serde_json::private::RawValue\":\"2\"\x7d" := by decide +kernel

end Json

end Reindex
