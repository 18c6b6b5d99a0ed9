import Reindex.Proofs.Json.Members
import Reindex.Proofs.Lifecycle.Managed

/-!
# Merging the managed settings

A setting has three spellings. Behind a merge each managed setting has one of them, with the value
of the tuning: the nested one if there is an object to nest it in, and the plain one otherwise. All
else is spelled as it was, and a second merge finds nothing to do.

Main statement: `managedSettings_merged`. It rests on `spellings_manageSetting` for what one merge
does, and on `manageSetting_of_placed` for what it leaves alone.
-/

namespace Reindex

/-! ## Spellings -/

/-- There is an object that settings are nested in. -/
def nests (settings : Json) : Bool := ((settings.get? "index").bind (·.asObject?)).isSome

/-- The spellings of a setting that was put in. -/
def placed (nested : Bool) (value : Json) : List (Option Json) :=
  if nested then [some value, none, none] else [none, some value, none]

theorem filterMap_placed (nested : Bool) (value : Json) :
    (placed nested value).filterMap id = [value] := by
  cases nested <;> rfl

/-- Settings as they are read: no name stands in them twice, nor in what is nested in them. -/
structure ListedSettings (settings : Json) : Prop where
  members : settings.Listed
  nested : ∀ j, settings.get? "index" = some j → j.Listed

theorem ListedSettings.of_read {settings : Json} (h : settings.Read) : ListedSettings settings :=
  ⟨h.listed, fun _ there => (h.get? there).listed⟩

theorem Entries.insert_of_get? {key : String} {value : Json} {es : List (String × Json)}
    (ordered : Entries.Ordered es) (there : Entries.get? key es = some value) :
    Entries.insert key value es = es := by
  refine Entries.eq_of_get?_eq ordered.insert ordered fun other => ?_
  rw [Entries.get?_insert]
  by_cases same : key = other
  · rw [if_pos same, ← same, there]
  · rw [if_neg same]

/-! ## One setting -/

variable {key other : String} {value : Json} {settings : List (String × Json)}

theorem nests_eq (settings : List (String × Json)) :
    nests (.object settings) = ((Entries.get? "index" settings).bind (·.asObject?)).isSome := rfl

theorem asObject?_nest (key : String) (value j : Json) :
    ((Json.nest key value j).asObject?).isSome = (j.asObject?).isSome := by
  cases j <;> rfl

theorem nests_manageSetting (hk : Unnested key) (value : Json) (settings : List (String × Json)) :
    nests (.object (manageSetting key value settings)) = nests (.object settings) := by
  rw [nests_eq, nests_eq, get?_index_manageSetting hk]
  cases Entries.get? "index" settings with
  | none => rfl
  | some j => exact asObject?_nest key value j

theorem ordered_manageSetting (key : String) (value : Json) (ordered : Entries.Ordered settings) :
    Entries.Ordered (manageSetting key value settings) := by
  unfold manageSetting
  dsimp only
  split
  · exact ordered.erase.insert.erase
  · exact ordered.erase.insert

theorem ListedSettings.manageSetting (hk : Unnested key) (value : Json)
    (listed : ListedSettings (.object settings)) :
    ListedSettings (.object (manageSetting key value settings)) where
  members := ordered_manageSetting key value listed.members
  nested j there := by
    have there : Entries.get? "index" (Reindex.manageSetting key value settings) = some j := there
    rw [get?_index_manageSetting hk] at there
    obtain ⟨old, was, rfl⟩ := Option.map_eq_some_iff.1 there
    have listed := listed.nested old was
    cases old with
    | object nested => exact Entries.Ordered.insert listed
    | _ => trivial

theorem dotted_ne (key : String) : "index." ++ key ≠ key := by
  intro same
  have := congrArg String.length same
  simp at this

/-- **A setting that is put in** has one spelling. -/
theorem spellings_manageSetting (hk : Unnested key) (value : Json)
    (ordered : Entries.Ordered settings) :
    spellings (.object (manageSetting key value settings)) key = placed
      (nests (.object settings)) value := by
  have nested := get?_index_manageSetting hk value settings
  have kept := Entries.get?_erase_of_ne hk.2 settings
  have gone := (Entries.get?_erase ("index." ++ key) ("index." ++ key) ordered).trans (if_pos rfl)
  have ordered' : Entries.Ordered (Entries.erase ("index." ++ key) settings) := ordered.erase
  rw [nests_eq]
  unfold spellings
  show [(Entries.get? "index" _).bind _, Entries.get? key _, Entries.get? ("index." ++ key) _] = _
  rw [nested]
  unfold manageSetting
  dsimp only
  generalize Entries.erase ("index." ++ key) settings = rest at kept gone ordered'
  rw [← kept]
  split
  · rename_i members there
    rw [there]
    have plain : Entries.get? key (Entries.erase key
        (Entries.insert "index" (.object (Entries.insert key value members)) rest)) = none :=
      (Entries.get?_erase key key ordered'.insert).trans (if_pos rfl)
    have dotted : Entries.get? ("index." ++ key) (Entries.erase key
        (Entries.insert "index" (.object (Entries.insert key value members)) rest)) = none := by
      rw [Entries.get?_erase_of_ne (dotted_ne key).symm, Entries.get?_insert,
        if_neg hk.2.symm, gone]
    rw [plain, dotted]
    show [Entries.get? key (Entries.insert key value members), none, none] = _
    rw [Entries.get?_insert, if_pos rfl]
    rfl
  · rename_i flat
    have plain : Entries.get? key (Entries.insert key value rest) = some value := by
      rw [Entries.get?_insert, if_pos rfl]
    have dotted : Entries.get? ("index." ++ key) (Entries.insert key value rest) = none := by
      rw [Entries.get?_insert, if_neg (dotted_ne key).symm, gone]
    rw [plain, dotted]
    cases there : Entries.get? "index" rest with
    | none => rfl
    | some j =>
      cases j with
      | object members => exact absurd there (flat members)
      | _ => rfl

/-- **A setting that is in its place** is left alone. -/
theorem manageSetting_of_placed (hk : Unnested key) (listed : ListedSettings (.object settings))
    (there : spellings (.object settings) key = placed (nests (.object settings)) value) :
    manageSetting key value settings = settings := by
  have same := (spellings_manageSetting hk value listed.members).trans there.symm
  unfold spellings at same
  obtain ⟨-, plain, dotted⟩ : _ ∧
    Entries.get? key (manageSetting key value settings) = Entries.get? key settings ∧
      Entries.get? ("index." ++ key) (manageSetting key value settings) = Entries.get?
        ("index." ++ key) settings := by
    simpa [Json.get?] using same
  refine Entries.eq_of_get?_eq (ordered_manageSetting key value listed.members) listed.members
    fun k => ?_
  by_cases index : "index" = k
  · subst index
    rw [get?_index_manageSetting hk]
    cases was : Entries.get? "index" settings with
    | none => rfl
    | some j =>
      have inOrder := listed.nested j was
      cases j with
      | object nested =>
        -- the object is there, so the setting is nested in it
        have nested? : Entries.get? key nested = some value := by
          have placed : (Entries.get? "index" settings).bind (·.get? key) = some value := by
            rw [nests_eq, was] at there
            exact (List.cons.inj there).1
          rwa [was] at placed
        exact congrArg (fun ms => some (Json.object ms)) (Entries.insert_of_get? inOrder nested?)
      | _ => rfl
  · by_cases own : key = k
    · rw [← own, plain]
    · by_cases dot : "index." ++ key = k
      · rw [← dot, dotted]
      · exact get?_manageSetting_of_ne value settings index own dot

/-! ## Several settings -/

/-- Settings that can be put in one after another: no spelling of one is one of another. -/
structure Manageable (managed : List (String × Json)) : Prop where
  unnested : ∀ m ∈ managed, Unnested m.1
  apart : managed.Pairwise fun m n => Apart n.1 m.1

/-- Settings put in one after another. -/
def manageAll (managed settings : List (String × Json)) : List (String × Json) :=
  managed.foldl (fun s m => manageSetting m.1 m.2 s) settings

variable {managed : List (String × Json)}

theorem Manageable.tail {m : String × Json} (h : Manageable (m :: managed)) : Manageable managed :=
  ⟨fun n hn => h.unnested n (.tail _ hn), (List.pairwise_cons.1 h.apart).2⟩

theorem ListedSettings.manageAll (h : Manageable managed)
    (listed : ListedSettings (.object settings)) :
    ListedSettings (.object (manageAll managed settings)) := by
  induction managed generalizing settings with
  | nil => exact listed
  | cons m managed ih => exact ih h.tail (listed.manageSetting (h.unnested m (.head _)) m.2)

theorem nests_manageAll (h : Manageable managed) (settings : List (String × Json)) :
    nests (.object (manageAll managed settings)) = nests (.object settings) := by
  induction managed generalizing settings with
  | nil => rfl
  | cons m managed ih =>
    exact (ih h.tail _).trans (nests_manageSetting (h.unnested m (.head _)) m.2 settings)

theorem spellings_manageAll_of_apart (h : Manageable managed) (ho : Unnested other)
    (apart : ∀ m ∈ managed, Apart m.1 other) (settings : List (String × Json)) :
    spellings (.object (manageAll managed settings)) other = spellings
      (.object settings) other := by
  induction managed generalizing settings with
  | nil => rfl
  | cons m managed ih =>
    exact (ih h.tail (fun n hn => apart n (.tail _ hn)) _).trans
      (spellings_manageSetting_of_apart (h.unnested m (.head _)) ho
        (apart m (.head _)) m.2 settings)

/-- Each of several settings is in its place. -/
theorem spellings_manageAll (h : Manageable managed) (listed : ListedSettings (.object settings)) :
    ∀ m ∈ managed, spellings (.object (manageAll managed settings)) m.1 = placed
      (nests (.object settings)) m.2 := by
  induction managed generalizing settings with
  | nil => nofun
  | cons m managed ih =>
    have hm := h.unnested m (.head _)
    intro n hn
    cases hn with
    | head =>
      exact (spellings_manageAll_of_apart h.tail hm (List.pairwise_cons.1 h.apart).1 _).trans
        (spellings_manageSetting hm m.2 listed.members)
    | tail _ hn =>
      rw [← nests_manageSetting hm m.2 settings]
      exact ih h.tail (listed.manageSetting hm m.2) n hn

/-- Settings that are in their places are left alone. -/
theorem manageAll_of_placed (h : Manageable managed) (listed : ListedSettings (.object settings))
    (there : ∀ m ∈ managed, spellings (.object settings) m.1 = placed
      (nests (.object settings)) m.2) :
    manageAll managed settings = settings := by
  induction managed with
  | nil => rfl
  | cons m managed ih =>
    have one : manageSetting m.1 m.2 settings = settings :=
      manageSetting_of_placed (h.unnested m (.head _)) listed (there m (.head _))
    exact (congrArg (manageAll managed) one).trans (ih h.tail fun n hn => there n (.tail _ hn))

theorem get?_manageAll_of_ne (hi : "index" ≠ other)
    (ne : ∀ m ∈ managed, m.1 ≠ other ∧ "index." ++ m.1 ≠ other) (settings : List (String × Json)) :
    Entries.get? other (manageAll managed settings) = Entries.get? other settings := by
  induction managed generalizing settings with
  | nil => rfl
  | cons m managed ih =>
    obtain ⟨plain, dotted⟩ := ne m (.head _)
    exact (ih (fun n hn => ne n (.tail _ hn)) _).trans
      (get?_manageSetting_of_ne m.2 settings hi plain dotted)

/-- What stands under `index` takes the settings one after another. -/
theorem get?_index_manageAll (h : Manageable managed) (settings : List (String × Json)) :
    Entries.get? "index" (manageAll managed settings) =
      (Entries.get? "index" settings).map fun j =>
        managed.foldl (fun j m => Json.nest m.1 m.2 j) j := by
  induction managed generalizing settings with
  | nil => exact Option.map_id'.symm
  | cons m managed ih =>
    refine (ih h.tail _).trans ?_
    rw [get?_index_manageSetting (h.unnested m (.head _)), Option.map_map]
    rfl

theorem get?_foldl_nest (ne : ∀ m ∈ managed, m.1 ≠ key) (j : Json) :
    (managed.foldl (fun j m => Json.nest m.1 m.2 j) j).get? key = j.get? key := by
  induction managed generalizing j with
  | nil => rfl
  | cons m managed ih =>
    exact (ih (fun n hn => ne n (.tail _ hn)) _).trans (Json.get?_nest_of_ne (ne m (.head _)) m.2 j)

theorem foldl_nest_of_flat {j : Json} (flat : j.asObject? = none) (managed : List (String × Json)) :
    managed.foldl (fun j m => Json.nest m.1 m.2 j) j = j := by
  induction managed with
  | nil => rfl
  | cons m managed ih =>
    have same : Json.nest m.1 m.2 j = j := by
      cases j with
      | object members => cases flat
      | _ => rfl
    exact (congrArg (managed.foldl fun j m => Json.nest m.1 m.2 j) same).trans ih

/-! ## The managed settings of a tuning -/

theorem unnested_setting :
    ∀ key ∈ ["number_of_replicas", "refresh_interval"], Unnested key := by decide

theorem apart_settings : ∀ key ∈ ["number_of_replicas", "refresh_interval"],
    ∀ other ∈ ["number_of_replicas", "refresh_interval"], other ≠ key → Apart other key := by decide

theorem Tuning.name_of_managed (t : Tuning) :
    ∀ m ∈ t.managed, m.1 ∈ ["number_of_replicas", "refresh_interval"] := by
  unfold Tuning.managed
  cases t.replicas <;> cases t.refreshInterval <;> simp

theorem Tuning.manageable (t : Tuning) : Manageable t.managed where
  unnested m hm := unnested_setting m.1 (t.name_of_managed m hm)
  apart := by
    have different : t.managed.Pairwise fun m n => n.1 ≠ m.1 := by
      unfold Tuning.managed
      cases t.replicas <;> cases t.refreshInterval <;> simp
    exact different.imp_of_mem fun hm hn =>
      apart_settings _ (t.name_of_managed _ hm) _ (t.name_of_managed _ hn)

/-- What a merge of a tuning into settings comes to. -/
structure Merged (settings : Json) (t : Tuning) (merged : Json) : Prop where
  object : ∃ members, merged = .object members
  listed : ListedSettings merged
  /-- Each managed setting has one spelling, with the value of the tuning, and that value is
  read. -/
  managed : ∀ m ∈ t.managed, spelled merged m.1 = [m.2] ∧ readSetting merged m.1 = some m.2
  /-- Everything else stays as it was, at the top and nested. -/
  top : ∀ key, key ≠ "index" → (∀ m ∈ t.managed, m.1 ≠ key ∧ "index." ++ m.1 ≠ key) →
    merged.get? key = settings.get? key
  nested : ∀ key, (∀ m ∈ t.managed, m.1 ≠ key) →
    (merged.get? "index").bind (·.get? key) = (settings.get? "index").bind (·.get? key)
  /-- Nothing comes to be nested or ceases to be. -/
  index : nests merged = nests settings ∧
    (nests settings = false → merged.get? "index" = settings.get? "index")
  unmanaged : ∀ key ∈ ["number_of_replicas", "refresh_interval"], (∀ m ∈ t.managed, m.1 ≠ key) →
    spellings merged key = spellings settings key
  /-- A second merge finds nothing to do. -/
  again : managedSettings merged t = merged

/-- Settings that are no object are empty ones. -/
theorem get?_members (settings : Json) (key : String) :
    (Json.object (settings.asObject?.getD [])).get? key = settings.get? key := by
  cases settings <;> rfl

theorem ListedSettings.of_members {settings : Json} (listed : ListedSettings settings) :
    ListedSettings (.object (settings.asObject?.getD [])) where
  members := by
    have members := listed.members
    cases settings with
    | object ms => exact members
    | _ => exact Entries.ordered_nil
  nested j there := listed.nested j (by rwa [get?_members] at there)

/-- A merge into an object. -/
theorem merged_manageAll (listed : ListedSettings (.object settings)) (t : Tuning) :
    Merged (.object settings) t (.object (manageAll t.managed settings)) := by
  have manageable := t.manageable
  have places := spellings_manageAll manageable listed
  have one (m : String × Json) (hm : m ∈ t.managed) :
      spelled (.object (manageAll t.managed settings)) m.1 = [m.2] := by
    unfold spelled
    rw [places m hm, filterMap_placed]
  exact {
    object := ⟨_, rfl⟩
    listed := listed.manageAll manageable
    managed := fun m hm => ⟨one m hm, by rw [readSetting_eq_head, one m hm]; rfl⟩
    top := fun key ni ne => get?_manageAll_of_ne ni.symm ne settings
    nested := fun key ne => by
      show (Entries.get? "index" (manageAll t.managed settings)).bind _ =
        (Entries.get? "index" settings).bind _
      rw [get?_index_manageAll manageable]
      cases Entries.get? "index" settings with
      | none => rfl
      | some j => exact get?_foldl_nest ne j
    index := by
      refine ⟨nests_manageAll manageable settings, fun flat => ?_⟩
      rw [nests_eq] at flat
      show Entries.get? "index" (manageAll t.managed settings) = Entries.get? "index" settings
      rw [get?_index_manageAll manageable]
      cases there : Entries.get? "index" settings with
      | none => rfl
      | some j =>
        rw [there] at flat
        exact congrArg some (foldl_nest_of_flat (by simpa using flat) t.managed)
    unmanaged := fun key hk ne =>
      spellings_manageAll_of_apart manageable (unnested_setting key hk)
        (fun m hm => apart_settings key hk m.1 (t.name_of_managed m hm) (ne m hm)) settings
    again := by
      refine congrArg Json.object
        (manageAll_of_placed manageable (listed.manageAll manageable) fun m hm => ?_)
      exact (places m hm).trans
        (congrArg (placed · m.2) (nests_manageAll manageable settings).symm) }

/-- A merge into the members of some settings is one into the settings. -/
theorem Merged.of_members {settings merged : Json} {t : Tuning}
    (h : Merged (.object (settings.asObject?.getD [])) t merged) : Merged settings t merged := by
  have same := get?_members settings
  have nests? : nests (.object (settings.asObject?.getD [])) = nests settings := by
    unfold nests
    rw [same]
  exact {
    object := h.object
    listed := h.listed
    managed := h.managed
    top := fun key ni ne => (h.top key ni ne).trans (same key)
    nested := fun key ne => by rw [h.nested key ne, same]
    index := ⟨h.index.1.trans nests?, fun flat =>
      (h.index.2 (nests?.trans flat)).trans (same "index")⟩
    unmanaged := fun key hk ne => by
      rw [h.unmanaged key hk ne]
      unfold spellings
      rw [same, same, same]
    again := h.again }

/-- **The managed settings are merged** into all others. -/
theorem managedSettings_merged {settings : Json} (listed : ListedSettings settings) (t : Tuning) :
    Merged settings t (managedSettings settings t) :=
  (merged_manageAll listed.of_members t).of_members

/-- Settings that are spelled in all three ways at once. -/
theorem managedSettings_merged_mixed :
    let text := "\x7b\"index\":\x7b\"codec\":\"best\",\"number_of_replicas\":9\x7d," ++
      "\"index.refresh_interval\":\"5s\",\"number_of_replicas\":3,\"shards\":2\x7d"
    ∃ settings, Json.parse text = .ok settings ∧
      (managedSettings settings {}).text =
        "\x7b\"index\":\x7b\"codec\":\"best\",\"number_of_replicas\":1," ++
        "\"refresh_interval\":\"30s\"\x7d,\"shards\":2\x7d" ∧
      Merged settings {} (managedSettings settings {}) := by
  intro text
  have read : (Json.parse text).toOption.map (fun settings => (managedSettings settings {}).text) =
      some ("\x7b\"index\":\x7b\"codec\":\"best\",\"number_of_replicas\":1," ++
        "\"refresh_interval\":\"30s\"\x7d,\"shards\":2\x7d") := by decide +kernel
  obtain ⟨settings, parsed, merged⟩ := Option.map_eq_some_iff.1 read
  have parsed := eq_ok_of_toOption parsed
  exact ⟨settings, parsed, merged, managedSettings_merged (.of_read (Json.read_of_parse parsed)) {}⟩

end Reindex
