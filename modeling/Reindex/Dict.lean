/-!
# Dictionaries ordered by key

Everything a search cluster names (indices, aliases, documents, the members of a JSON object)
is kept sorted by its name, so that listing it has one order. `Entries` are the operations on a
plain sorted list, which the JSON type needs; `Dict` carries the order as a proof.

Main statements: `Dict.get?_insert`, `Dict.get?_erase` say what a look-up sees after a change,
and `Dict.ext_get?` that a dictionary is determined by its look-ups.
-/

namespace Reindex

universe u v

namespace Entries

variable {α : Type u} {β : Type v}

/-- The value stored under `key`. -/
def get? (key : String) : List (String × α) → Option α
  | [] => none
  | (k, v) :: rest => if k = key then some v else get? key rest

/-- Stores `value` under `key`, in its place in the order; an older value gives way. -/
def insert (key : String) (value : α) : List (String × α) → List (String × α)
  | [] => [(key, value)]
  | (k, v) :: rest =>
    if key < k then (key, value) :: (k, v) :: rest
    else if key = k then (key, value) :: rest
    else (k, v) :: insert key value rest

/-- Removes `key` and its value. -/
def erase (key : String) : List (String × α) → List (String × α)
  | [] => []
  | (k, v) :: rest => if k = key then rest else (k, v) :: erase key rest

/-- The pairs put in one after another, so that the last value of a repeated key stays. -/
def ofList (pairs : List (String × α)) : List (String × α) :=
  pairs.foldl (fun es p => insert p.1 p.2 es) []

/-- Keys ascend strictly. -/
def Ordered (es : List (String × α)) : Prop := es.Pairwise (·.1 < ·.1)

theorem ordered_nil : Ordered ([] : List (String × α)) := List.Pairwise.nil

theorem mem_insert {key : String} {value : α} {es : List (String × α)} {p : String × α}
    (h : p ∈ insert key value es) : p = (key, value) ∨ p ∈ es := by
  induction es with
  | nil => simpa [insert] using h
  | cons e rest ih =>
    obtain ⟨k, v⟩ := e
    simp only [insert] at h
    split at h
    · simpa using h
    · split at h
      · rcases List.mem_cons.1 h with h | h
        · exact .inl h
        · exact .inr (List.mem_cons_of_mem _ h)
      · rcases List.mem_cons.1 h with h | h
        · exact .inr (by simp [h])
        · rcases ih h with h | h
          · exact .inl h
          · exact .inr (List.mem_cons_of_mem _ h)

theorem mem_of_mem_erase {key : String} {es : List (String × α)} {p : String × α}
    (h : p ∈ erase key es) : p ∈ es := by
  induction es with
  | nil => simp [erase] at h
  | cons e rest ih =>
    obtain ⟨k, v⟩ := e
    simp only [erase] at h
    split at h
    · exact List.mem_cons_of_mem _ h
    · rcases List.mem_cons.1 h with h | h
      · simp [h]
      · exact List.mem_cons_of_mem _ (ih h)

theorem Ordered.insert {key : String} {value : α} {es : List (String × α)} (h : Ordered es) :
    Ordered (insert key value es) := by
  induction es with
  | nil => simp [Entries.insert, Ordered]
  | cons e rest ih =>
    obtain ⟨k, v⟩ := e
    obtain ⟨hk, hr⟩ := List.pairwise_cons.1 h
    simp only [Entries.insert]
    split
    · rename_i hlt
      refine List.pairwise_cons.2 ⟨?_, h⟩
      intro p hp
      rcases List.mem_cons.1 hp with hp | hp
      · simpa [hp] using hlt
      · exact String.lt_trans hlt (hk p hp)
    · split
      · rename_i heq
        subst heq
        exact List.pairwise_cons.2 ⟨hk, hr⟩
      · rename_i hnlt hne
        refine List.pairwise_cons.2 ⟨?_, ih hr⟩
        intro p hp
        rcases mem_insert hp with hp | hp
        · subst hp
          exact Decidable.byContradiction fun hc =>
            hne (String.le_antisymm (String.not_lt.1 hc) (String.not_lt.1 hnlt))
        · exact hk p hp

theorem Ordered.erase {key : String} {es : List (String × α)} (h : Ordered es) :
    Ordered (erase key es) := by
  induction es with
  | nil => simp [Entries.erase, Ordered]
  | cons e rest ih =>
    obtain ⟨k, v⟩ := e
    obtain ⟨hk, hr⟩ := List.pairwise_cons.1 h
    simp only [Entries.erase]
    split
    · exact hr
    · exact List.pairwise_cons.2 ⟨fun p hp => hk p (mem_of_mem_erase hp), ih hr⟩

theorem ordered_ofList (pairs : List (String × α)) : Ordered (ofList pairs) := by
  have key : ∀ (ps es : List (String × α)), Ordered es →
      Ordered (ps.foldl (fun es p => Entries.insert p.1 p.2 es) es) := by
    intro ps
    induction ps with
    | nil => intro es h; exact h
    | cons p ps ih => intro es h; exact ih _ h.insert
  exact key pairs [] ordered_nil

theorem get?_eq_none_of_lt {key : String} {es : List (String × α)}
    (h : ∀ p ∈ es, key < p.1) : get? key es = none := by
  induction es with
  | nil => rfl
  | cons e rest ih =>
    obtain ⟨k, v⟩ := e
    have hk : key < k := h (k, v) (by simp)
    have hne : k ≠ key := fun hc => String.lt_irrefl key (hc ▸ hk)
    simp only [get?, hne, if_false]
    exact ih fun p hp => h p (List.mem_cons_of_mem _ hp)

theorem get?_insert (key other : String) (value : α) (es : List (String × α)) :
    get? other (insert key value es) = if key = other then some value else get? other es := by
  induction es with
  | nil => simp [insert, get?]
  | cons e rest ih =>
    obtain ⟨k, v⟩ := e
    simp only [insert]
    split
    · simp [get?]
    · split
      · rename_i heq
        subst heq
        by_cases h : key = other <;> simp [get?, h]
      · rename_i hne
        by_cases h : k = other
        · subst h; simp [get?, hne]
        · simp [get?, h, ih]

theorem get?_erase (key other : String) {es : List (String × α)} (ho : Ordered es) :
    get? other (erase key es) = if key = other then none else get? other es := by
  induction es with
  | nil => simp [erase, get?]
  | cons e rest ih =>
    obtain ⟨k, v⟩ := e
    obtain ⟨hk, hr⟩ := List.pairwise_cons.1 ho
    simp only [erase]
    split
    · rename_i heq
      subst heq
      by_cases h : k = other
      · subst h
        simpa using get?_eq_none_of_lt hk
      · simp [get?, h]
    · rename_i hne
      by_cases h : k = other
      · subst h
        have : key ≠ k := fun hc => hne hc.symm
        simp [get?, this]
      · simp [get?, h, ih hr]

/-- Removing a key does nothing to the others, in whatever order they stand. -/
theorem get?_erase_of_ne {key other : String} (h : key ≠ other) (es : List (String × α)) :
    get? other (erase key es) = get? other es := by
  induction es with
  | nil => rfl
  | cons e rest ih =>
    obtain ⟨k, v⟩ := e
    by_cases hk : k = key
    · subst hk
      simp [erase, get?, h]
    · simp only [erase, get?, if_neg hk, ih]

theorem mem_of_get? {key : String} {value : α} {es : List (String × α)}
    (h : get? key es = some value) : (key, value) ∈ es := by
  induction es with
  | nil => simp [get?] at h
  | cons e rest ih =>
    obtain ⟨k, v⟩ := e
    simp only [get?] at h
    split at h
    · rename_i heq; simp_all
    · exact List.mem_cons_of_mem _ (ih h)

theorem get?_of_mem {key : String} {value : α} {es : List (String × α)} (ho : Ordered es)
    (h : (key, value) ∈ es) : get? key es = some value := by
  induction es with
  | nil => simp at h
  | cons e rest ih =>
    obtain ⟨k, v⟩ := e
    obtain ⟨hk, hr⟩ := List.pairwise_cons.1 ho
    rcases List.mem_cons.1 h with h | h
    · cases h; simp [get?]
    · have hne : k ≠ key := fun hc => String.lt_irrefl key (hc ▸ hk _ h)
      simp [get?, hne, ih hr h]

/-- Two ordered lists with the same look-ups are the same list. -/
theorem eq_of_get?_eq {es fs : List (String × α)} (he : Ordered es) (hf : Ordered fs)
    (h : ∀ k, get? k es = get? k fs) : es = fs := by
  induction es generalizing fs with
  | nil =>
    cases fs with
    | nil => rfl
    | cons f rest =>
      have := h f.1
      simp [get?] at this
  | cons e rest ih =>
    obtain ⟨k, v⟩ := e
    cases fs with
    | nil => have := h k; simp [get?] at this
    | cons f rest' =>
      obtain ⟨k', v'⟩ := f
      obtain ⟨hk, hr⟩ := List.pairwise_cons.1 he
      obtain ⟨hk', hr'⟩ := List.pairwise_cons.1 hf
      have hkk : k = k' := by
        apply Decidable.byContradiction
        intro hne
        have h1 := mem_of_get? ((h k).symm.trans (by simp [get?]) :
          get? k ((k', v') :: rest') = some v)
        have h2 := mem_of_get? ((h k').trans (by simp [get?]) : get? k' ((k, v) :: rest) = some v')
        rcases List.mem_cons.1 h1 with h1 | h1
        · exact hne (congrArg Prod.fst h1)
        rcases List.mem_cons.1 h2 with h2 | h2
        · exact hne (congrArg Prod.fst h2).symm
        exact String.lt_asymm (hk' _ h1) (hk _ h2)
      subst hkk
      have hv : v = v' := by simpa [get?] using h k
      subst hv
      congr 1
      refine ih hr hr' fun j => ?_
      by_cases hj : k = j
      · subst hj
        rw [get?_eq_none_of_lt hk, get?_eq_none_of_lt hk']
      · simpa [get?, hj] using h j

end Entries

/-- A finite map from names, listed in ascending order of the names. -/
structure Dict (α : Type u) where
  entries : List (String × α)
  ordered : Entries.Ordered entries

namespace Dict

variable {α : Type u} {β : Type v}

instance [DecidableEq α] : DecidableEq (Dict α) := fun a b =>
  if h : a.entries = b.entries then isTrue (by cases a; cases b; simp_all)
  else isFalse fun hab => h (hab ▸ rfl)

/-- The dictionary that holds nothing. -/
def empty : Dict α := ⟨[], Entries.ordered_nil⟩

instance : EmptyCollection (Dict α) := ⟨empty⟩
instance : Inhabited (Dict α) := ⟨empty⟩

def get? (d : Dict α) (key : String) : Option α := Entries.get? key d.entries
def insert (d : Dict α) (key : String) (value : α) : Dict α :=
  ⟨Entries.insert key value d.entries, d.ordered.insert⟩
def erase (d : Dict α) (key : String) : Dict α := ⟨Entries.erase key d.entries, d.ordered.erase⟩
def contains (d : Dict α) (key : String) : Bool := (d.get? key).isSome
def isEmpty (d : Dict α) : Bool := d.entries.isEmpty

/-- The names in ascending order. -/
def keys (d : Dict α) : List String := d.entries.map (·.1)

/-- The pairs put in one after another. -/
def ofList (pairs : List (String × α)) : Dict α :=
  ⟨Entries.ofList pairs, Entries.ordered_ofList pairs⟩

/-- Every entry of `d` put into `into`. -/
def mergeInto (into d : Dict α) : Dict α := d.entries.foldl (fun m e => m.insert e.1 e.2) into

/-- Each value replaced by what `f` makes of it under its name; `none` drops the entry. -/
def filterMap (f : String → α → Option β) (d : Dict α) : Dict β where
  entries := d.entries.filterMap fun e => (f e.1 e.2).map (e.1, ·)
  ordered := by
    refine List.Pairwise.filterMap _ ?_ d.ordered
    intro a b hab x hx y hy
    obtain ⟨v, -, rfl⟩ := Option.map_eq_some_iff.1 hx
    obtain ⟨w, -, rfl⟩ := Option.map_eq_some_iff.1 hy
    exact hab

theorem get?_insert (d : Dict α) (key other : String) (value : α) :
    (d.insert key value).get? other = if key = other then some value else d.get? other :=
  Entries.get?_insert key other value d.entries

theorem get?_erase (d : Dict α) (key other : String) :
    (d.erase key).get? other = if key = other then none else d.get? other :=
  Entries.get?_erase key other d.ordered

@[simp] theorem get?_empty (key : String) : (∅ : Dict α).get? key = none := rfl

theorem mem_entries_iff (d : Dict α) (key : String) (value : α) :
    (key, value) ∈ d.entries ↔ d.get? key = some value :=
  ⟨Entries.get?_of_mem d.ordered, Entries.mem_of_get?⟩

/-- A dictionary is determined by its look-ups. -/
theorem ext_get? {d e : Dict α} (h : ∀ k, d.get? k = e.get? k) : d = e := by
  cases d; cases e
  congr
  exact Entries.eq_of_get?_eq ‹_› ‹_› h

theorem contains_eq (d : Dict α) (key : String) : d.contains key = (d.get? key).isSome := rfl

theorem contains_iff {d : Dict α} {key : String} :
    d.contains key = true ↔ ∃ value, d.get? key = some value :=
  Option.isSome_iff_exists

theorem contains_insert (d : Dict α) (key other : String) (value : α) :
    (d.insert key value).contains other = (decide (key = other) || d.contains other) := by
  rw [contains_eq, get?_insert]
  by_cases hk : key = other <;> simp [hk, contains_eq]

theorem mem_keys {d : Dict α} {key : String} : key ∈ d.keys ↔ d.contains key = true := by
  rw [contains_iff, keys, List.mem_map]
  constructor
  · rintro ⟨⟨k, v⟩, he, rfl⟩
    exact ⟨v, (mem_entries_iff d k v).1 he⟩
  · rintro ⟨v, hv⟩
    exact ⟨(key, v), (mem_entries_iff d key v).2 hv, rfl⟩

theorem ordered_keys (d : Dict α) : d.keys.Pairwise (· < ·) := List.pairwise_map.2 d.ordered

theorem nodup_keys (d : Dict α) : d.keys.Nodup := d.ordered_keys.imp fun h => String.ne_of_lt h

theorem isEmpty_iff {d : Dict α} : d.isEmpty = true ↔ d = ∅ := by
  constructor
  · intro h
    refine ext_get? fun k => ?_
    unfold get?
    rw [List.isEmpty_iff.1 h]
    rfl
  · rintro rfl
    rfl

theorem get?_filterMap (f : String → α → Option β) (d : Dict α) (key : String) :
    (d.filterMap f).get? key = (d.get? key).bind (f key) := by
  refine Option.ext fun b => ?_
  rw [← mem_entries_iff, filterMap, List.mem_filterMap, Option.bind_eq_some_iff]
  constructor
  · rintro ⟨⟨k, v⟩, he, hf⟩
    obtain ⟨w, hw, hk⟩ := Option.map_eq_some_iff.1 hf
    cases hk
    exact ⟨v, (mem_entries_iff d k v).1 he, hw⟩
  · rintro ⟨v, hv, hf⟩
    exact ⟨(key, v), (mem_entries_iff d key v).2 hv, by simp [hf]⟩

theorem keys_filterMap (f : String → α → Option β) (d : Dict α) :
    (d.filterMap f).keys = (d.entries.filter fun e => (f e.1 e.2).isSome).map (·.1) := by
  unfold keys filterMap
  dsimp only
  induction d.entries with
  | nil => rfl
  | cons e es ih =>
    rw [List.filterMap_cons, List.filter_cons]
    cases f e.1 e.2 with
    | none => exact ih
    | some b => exact congrArg (e.1 :: ·) ih

/-- Several keys removed one after another. -/
theorem get?_foldl_erase (names : List String) (d : Dict α) (key : String) :
    (names.foldl erase d).get? key = if key ∈ names then none else d.get? key := by
  induction names generalizing d with
  | nil => simp
  | cons name names ih =>
    rw [List.foldl_cons, ih, get?_erase]
    by_cases h : name = key
    · simp [h]
    · simp [h, Ne.symm h]

/-- What is put in goes first. -/
theorem get?_mergeInto (into d : Dict α) (key : String) :
    (into.mergeInto d).get? key = (d.get? key <|> into.get? key) := by
  obtain ⟨es, ho⟩ := d
  unfold mergeInto get?
  dsimp only
  induction es generalizing into with
  | nil => rfl
  | cons e rest ih =>
    obtain ⟨k, v⟩ := e
    obtain ⟨hk, hr⟩ := List.pairwise_cons.1 ho
    rw [List.foldl_cons, ih (into.insert k v) hr,
      show Entries.get? key (into.insert k v).entries = _ from
      get?_insert into k key v]
    by_cases h : k = key
    · subst h
      simp [Entries.get?, Entries.get?_eq_none_of_lt hk]
    · simp [Entries.get?, h, get?]

theorem contains_mergeInto (into d : Dict α) (key : String) :
    (into.mergeInto d).contains key = (d.contains key || into.contains key) := by
  rw [contains_eq, get?_mergeInto, contains_eq, contains_eq]
  cases d.get? key <;> rfl

end Dict

end Reindex
