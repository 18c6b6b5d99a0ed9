import Reindex.Json.Reader

/-!
# The members of objects that are read

An object that is read from a text lists its members in ascending order of their names, each name
once, also where its text stands quoted in another. So objects can be put together as dictionaries.

Main statements: `Json.listed_of_parse`, `Json.Read.get?`, by which that is so of every object
inside of what is read, and `Dict.ofList_entries`, by which a list in order is taken as it stands.
-/

namespace Reindex

theorem exceptBind_eq_ok {ε α β : Type} {x : Except ε α} {f : α → Except ε β} {b : β}
    (h : (x >>= f) = .ok b) :
    ∃ a, x = .ok a ∧ f a = .ok b := by
  cases x with
  | error e => cases h
  | ok a => exact ⟨a, rfl, h⟩

namespace Dict

variable {α : Type}

/-- Entries put in one after another, with the order as a proof or without. -/
theorem entries_foldl_insert (pairs : List (String × α)) (d : Dict α) :
    (pairs.foldl (fun m e => m.insert e.1 e.2) d).entries =
      pairs.foldl (fun es e => Entries.insert e.1 e.2 es) d.entries := by
  induction pairs generalizing d with
  | nil => rfl
  | cons e pairs ih => exact ih (d.insert e.1 e.2)

/-- What is in order is taken as it stands. -/
theorem ofList_entries (d : Dict α) : ofList d.entries = d := by
  have same : ofList d.entries = (∅ : Dict α).mergeInto d := by
    unfold ofList mergeInto
    congr 1
    exact (entries_foldl_insert d.entries ∅).symm
  rw [same]
  refine ext_get? fun key => ?_
  rw [get?_mergeInto, get?_empty]
  cases d.get? key <;> rfl

end Dict

theorem Entries.ofList_of_ordered {α : Type} {es : List (String × α)}
    (ordered : Entries.Ordered es) :
    Entries.ofList es = es :=
  congrArg Dict.entries (Dict.ofList_entries (⟨es, ordered⟩ : Dict α))

theorem Entries.mem_of_mem_ofList {α : Type} {pairs : List (String × α)} {p : String × α}
    (h : p ∈ Entries.ofList pairs) :
    p ∈ pairs := by
  have key (es : List (String × α))
    (hp : p ∈ pairs.foldl (fun es e => Entries.insert e.1 e.2 es) es) :
      p ∈ es ∨ p ∈ pairs := by
    clear h
    induction pairs generalizing es with
    | nil => exact .inl hp
    | cons e pairs ih =>
      rcases ih _ hp with h | h
      · exact (Entries.mem_insert h).elim (fun h => .inr (h ▸ .head _)) .inl
      · exact .inr (.tail _ h)
  exact (key [] h).resolve_left List.not_mem_nil

/-- No name of several pairs is lost. -/
theorem Entries.exists_mem_ofList {α : Type} {pairs : List (String × α)} {p : String × α}
    (h : p ∈ pairs) :
    ∃ value, (p.1, value) ∈ Entries.ofList pairs := by
  have key (es : List (String × α)) (hp : (Entries.get? p.1 es).isSome = true ∨ p ∈ pairs) :
      (Entries.get? p.1 (pairs.foldl (fun es e => Entries.insert e.1 e.2 es) es)).isSome =
        true := by
    clear h
    induction pairs generalizing es with
    | nil => exact hp.resolve_right List.not_mem_nil
    | cons e pairs ih =>
      refine ih _ ?_
      rw [Entries.get?_insert]
      rcases hp with hp | hp
      · exact .inl (by split <;> simp [hp])
      · cases hp with
        | head => exact .inl (by simp)
        | tail _ hp => exact .inr hp
  obtain ⟨value, found⟩ := Option.isSome_iff_exists.1 (key [] (.inr h))
  exact ⟨value, Entries.mem_of_get? found⟩

namespace Json

/-- An object lists its members in order; of what is no object nothing is said. -/
def Listed : Json → Prop
  | .object members => Entries.Ordered members
  | _ => True

namespace Reader

theorem eq_of_word {v j : Json} {ws cs rest : List Char} (h : word v ws cs = .ok (j, rest)) :
    j = v := by
  induction ws generalizing cs with
  | nil =>
    cases h
    rfl
  | cons w ws ih =>
    cases cs with
    | nil => cases h
    | cons c cs =>
      unfold word at h
      split at h
      · exact ih h
      · cases h

theorem value_of_whole {result : Except Stop (Json × List Char)} {j : Json}
    (h : whole result = .ok j) :
    ∃ rest, result = .ok (j, rest) := by
  unfold whole at h
  obtain ⟨⟨i, rest⟩, read, h⟩ := exceptBind_eq_ok h
  dsimp only at h
  split at h
  · cases h
    exact ⟨rest, read⟩
  · cases h

theorem mapError_eq_ok {ε ε' α : Type} {x : Except ε α} {f : ε → ε'} {a : α}
    (h : x.mapError f = .ok a) : x = .ok a := by
  cases x with
  | error e => cases h
  | ok b => cases h; rfl

/-- An object is read where its braces are, or as a value that stands quoted. -/
theorem object_of_value {fuel depth : Nat} {cs rest : List Char} {ms : List (String × Json)}
    (h : value (fuel + 1) depth cs = .ok (.object ms, rest)) :
    (∃ depth cs pairs rest, afterQuotedKey? cs = none ∧
      members fuel depth true cs = .ok (pairs, rest) ∧
        ms = Entries.ofList pairs) ∨
      ∃ depth cs rest, value fuel depth cs = .ok (.object ms, rest) := by
  unfold value at h
  split at h
  · cases h
  · cases eq_of_word h
  · cases eq_of_word h
  · cases eq_of_word h
  · obtain ⟨_, -, h⟩ := exceptBind_eq_ok h
    cases h
  · obtain ⟨_, -, h⟩ := exceptBind_eq_ok h
    cases h
  · split at h
    · cases h
    · obtain ⟨_, -, h⟩ := exceptBind_eq_ok h
      cases h
  · split at h
    · cases h
    · split at h
      · obtain ⟨⟨text, _⟩, -, h⟩ := exceptBind_eq_ok h
        obtain ⟨_, quoted, h⟩ := exceptBind_eq_ok h
        obtain ⟨_, -, h⟩ := exceptBind_eq_ok h
        cases h
        obtain ⟨rest, inner⟩ := value_of_whole (mapError_eq_ok quoted)
        exact .inr ⟨_, _, rest, inner⟩
      · rename_i bare
        obtain ⟨⟨pairs, _⟩, listed, h⟩ := exceptBind_eq_ok h
        cases h
        exact .inl ⟨_, _, pairs, _, bare, listed, rfl⟩
  · split at h
    · obtain ⟨_, -, h⟩ := exceptBind_eq_ok h
      cases h
    · cases h

theorem listed_of_value {fuel depth : Nat} {cs rest : List Char} {j : Json}
    (h : value fuel depth cs = .ok (j, rest)) :
    j.Listed := by
  cases j with
  | object ms =>
    induction fuel generalizing depth cs rest with
    | zero =>
      unfold value at h
      cases h
    | succ fuel ih =>
      obtain ⟨_, _, pairs, _, -, -, rfl⟩ | ⟨_, _, _, inner⟩ := object_of_value h
      · exact Entries.ordered_ofList pairs
      · exact ih inner
  | _ => trivial

end Reader

/-- A value that is read from some text. -/
def Read (j : Json) : Prop := ∃ fuel depth cs rest, Reader.value fuel depth cs = .ok (j, rest)

theorem read_of_parse {text : String} {j : Json} (h : parse text = .ok j) : Read j := by
  obtain ⟨rest, read⟩ := Reader.value_of_whole (Reader.mapError_eq_ok h)
  exact ⟨_, _, _, rest, read⟩

theorem Read.listed {j : Json} (h : Read j) : j.Listed := by
  obtain ⟨_, _, _, _, read⟩ := h
  exact Reader.listed_of_value read

/-- **What is read is listed.** -/
theorem listed_of_parse {text : String} {j : Json} (h : parse text = .ok j) : j.Listed :=
  (read_of_parse h).listed

/-! ## What is inside of what is read -/

/-- The members of an object are read one by one. -/
theorem Reader.read_of_members (fuel : Nat) :
    (∀ {depth first cs ms rest}, members fuel depth first cs = .ok (ms, rest) →
      ∀ p ∈ ms, Read p.2) ∧
      ∀ {depth cs ms rest}, member fuel depth cs = .ok (ms, rest) → ∀ p ∈ ms, Read p.2 := by
  induction fuel with
  | zero =>
    refine ⟨fun h => ?_, fun h => ?_⟩
    · unfold members at h
      cases h
    · unfold member at h
      cases h
  | succ fuel ih =>
    obtain ⟨ihMembers, ihMember⟩ := ih
    refine ⟨fun h => ?_, fun h => ?_⟩
    · unfold members at h
      split at h
      · cases h
      · cases h
        exact fun p hp => absurd hp List.not_mem_nil
      · split at h
        · split at h
          · exact ihMember h
          · cases h
        · split at h
          · split at h
            · cases h
            · exact ihMember h
            · cases h
            · cases h
          · cases h
    · unfold member at h
      obtain ⟨⟨name, afterName⟩, -, h⟩ := exceptBind_eq_ok h
      dsimp only at h
      split at h
      · cases h
      · obtain ⟨⟨v, afterValue⟩, read, h⟩ := exceptBind_eq_ok h
        obtain ⟨⟨more, afterMore⟩, others, h⟩ := exceptBind_eq_ok h
        cases h
        intro p hp
        cases hp with
        | head => exact ⟨_, _, _, _, read⟩
        | tail _ hp => exact ihMembers others p hp
      · cases h

/-- **What is inside of what is read is read itself,** from its own place or from the text that
stands quoted there. -/
theorem Read.member {ms : List (String × Json)} (h : Read (.object ms)) {p : String × Json}
    (hp : p ∈ ms) : Read p.2 := by
  obtain ⟨fuel, depth, cs, rest, read⟩ := h
  induction fuel generalizing depth cs rest with
  | zero =>
    unfold Reader.value at read
    cases read
  | succ fuel ih =>
    obtain ⟨_, _, pairs, _, -, listed, rfl⟩ | ⟨_, _, _, inner⟩ := Reader.object_of_value read
    · exact (Reader.read_of_members fuel).1 listed p (Entries.mem_of_mem_ofList hp)
    · exact ih _ _ _ inner

theorem Read.get? {j v : Json} (h : Read j) {key : String} (hv : j.get? key = some v) : Read v := by
  cases j with
  | object ms => exact h.member (Entries.mem_of_get? hv)
  | _ => cases hv

/-- An array is read where its brackets are, or as a value that stands quoted. -/
theorem Reader.array_of_value {fuel depth : Nat} {cs rest : List Char} {js : List Json}
    (h : value (fuel + 1) depth cs = .ok (.array js, rest)) :
    (∃ depth first cs rest, items fuel depth first cs = .ok (js, rest)) ∨
      ∃ depth cs rest, value fuel depth cs = .ok (.array js, rest) := by
  unfold value at h
  split at h
  · cases h
  · cases eq_of_word h
  · cases eq_of_word h
  · cases eq_of_word h
  · obtain ⟨_, -, h⟩ := exceptBind_eq_ok h
    cases h
  · obtain ⟨_, -, h⟩ := exceptBind_eq_ok h
    cases h
  · split at h
    · cases h
    · obtain ⟨⟨_, _⟩, listed, h⟩ := exceptBind_eq_ok h
      cases h
      exact .inl ⟨_, _, _, _, listed⟩
  · split at h
    · cases h
    · split at h
      · obtain ⟨⟨text, _⟩, -, h⟩ := exceptBind_eq_ok h
        obtain ⟨_, quoted, h⟩ := exceptBind_eq_ok h
        obtain ⟨_, -, h⟩ := exceptBind_eq_ok h
        cases h
        obtain ⟨rest, inner⟩ := value_of_whole (mapError_eq_ok quoted)
        exact .inr ⟨_, _, rest, inner⟩
      · obtain ⟨⟨pairs, _⟩, -, h⟩ := exceptBind_eq_ok h
        cases h
  · split at h
    · obtain ⟨_, -, h⟩ := exceptBind_eq_ok h
      cases h
    · cases h

/-- The items of an array are read one by one. -/
theorem Reader.read_of_items {fuel depth : Nat} {first : Bool} {cs rest : List Char}
    {js : List Json} (h : items fuel depth first cs = .ok (js, rest)) : ∀ j ∈ js, Read j := by
  have step {fuel depth : Nat} {cs rest : List Char} {js : List Json}
      (ih : ∀ {depth first cs rest js}, items fuel depth first cs = .ok (js, rest) →
        ∀ j ∈ js, Read j)
      (h : (value fuel depth cs >>= fun r => items fuel depth false r.2 >>= fun s =>
        pure (r.1 :: s.1, s.2)) =
        .ok (js, rest)) : ∀ j ∈ js, Read j := by
    obtain ⟨⟨item, afterItem⟩, read, h⟩ := exceptBind_eq_ok h
    obtain ⟨⟨more, afterMore⟩, others, h⟩ := exceptBind_eq_ok h
    cases h
    exact List.forall_mem_cons.2 ⟨⟨_, _, _, _, read⟩, ih others⟩
  induction fuel generalizing depth first cs rest js with
  | zero =>
    unfold items at h
    cases h
  | succ fuel ih =>
    unfold items at h
    split at h
    · cases h
    · cases h
      exact fun j hj => absurd hj List.not_mem_nil
    · split at h
      · exact step ih h
      · split at h
        · split at h
          · cases h
          · cases h
          · exact step ih h
        · cases h

theorem Read.item {js : List Json} (h : Read (.array js)) {j : Json} (hj : j ∈ js) : Read j := by
  obtain ⟨fuel, depth, cs, rest, read⟩ := h
  induction fuel generalizing depth cs rest with
  | zero =>
    unfold Reader.value at read
    cases read
  | succ fuel ih =>
    obtain ⟨_, _, _, _, listed⟩ | ⟨_, _, _, inner⟩ := Reader.array_of_value read
    · exact Reader.read_of_items listed j hj
    · exact ih _ _ _ inner

end Json

end Reindex
