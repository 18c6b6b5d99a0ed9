import Reindex.Proofs.Cluster.Frame
import Reindex.Proofs.Lifecycle.InMemory

/-!
# The settings that an index is made with

A setting may be spelled in three ways, and creation settings may use several of them at once. Where
a setting is managed, the tuning's value is put in so that it is the one that is read, whatever
spellings there were, and the reading of other settings stays what it was. So an index is made with
the settings that were asked for, with the managed ones in their place.

Main statement: `MemoryIndex.effective_fresh`.
-/

namespace Reindex

/-! ## Reading what was put in -/

/-- What is no object reads as an empty one does. -/
theorem readSetting_members (settings : Json) (key : String) :
    readSetting (.object (settings.asObject?.getD [])) key = readSetting settings key := by
  cases settings <;> rfl

/-- What stands under each spelling of a setting, in the order in which they are looked up: nested,
plain and dotted. -/
def spellings (settings : Json) (key : String) : List (Option Json) :=
  [(settings.get? "index").bind (·.get? key), settings.get? key, settings.get? ("index." ++ key)]

/-- The values that a setting has under its spellings. -/
def spelled (settings : Json) (key : String) : List Json := (spellings settings key).filterMap id

/-- The first of them is read. -/
theorem readSetting_eq_head (settings : Json) (key : String) :
    readSetting settings key = (spelled settings key).head? := by
  unfold readSetting spelled spellings
  cases (settings.get? "index").bind (·.get? key) <;> cases settings.get? key <;>
    cases settings.get? ("index." ++ key) <;> rfl

/-- No spelling of the setting is the name that settings are nested under. -/
def Unnested (key : String) : Prop := key ≠ "index" ∧ "index." ++ key ≠ "index"

instance (key : String) : Decidable (Unnested key) := inferInstanceAs (Decidable (_ ∧ _))

/-- No spelling of the one setting is one of the other. -/
def Apart (key other : String) : Prop :=
  ∀ spelling ∈ [key, "index." ++ key], spelling ∉ [other, "index." ++ other]

instance (key other : String) : Decidable (Apart key other) :=
  inferInstanceAs (Decidable (∀ _ ∈ _, _ ∉ _))

/-- A value put into what is nested. What is no object takes none. -/
def Json.nest (key : String) (value : Json) : Json → Json
  | .object nested => .object (Entries.insert key value nested)
  | other => other

variable {key other : String}

theorem Json.get?_nest_of_ne (h : key ≠ other) (value j : Json) :
    (nest key value j).get? other = j.get? other := by
  cases j with
  | object nested => exact (Entries.get?_insert key other value nested).trans (if_neg h)
  | _ => rfl

/-- What a managed setting leaves nested. -/
theorem get?_index_manageSetting (hk : Unnested key) (value : Json)
    (settings : List (String × Json)) :
    Entries.get? "index" (manageSetting key value settings) =
      (Entries.get? "index" settings).map (.nest key value) := by
  have kept := Entries.get?_erase_of_ne hk.2 settings
  unfold manageSetting
  dsimp only
  generalize Entries.erase ("index." ++ key) settings = rest at kept
  rw [← kept]
  split
  · rename_i nested there
    rw [Entries.get?_erase_of_ne hk.1, Entries.get?_insert, if_pos rfl, there]
    rfl
  · rename_i flat
    rw [Entries.get?_insert, if_neg hk.1]
    cases there : Entries.get? "index" rest with
    | none => rfl
    | some j =>
      cases j with
      | object nested => exact absurd there (flat nested)
      | _ => rfl

/-- Where nothing is nested a managed setting is spelled plainly. -/
theorem get?_manageSetting_of_flat (hk : Unnested key) (value : Json)
    (settings : List (String × Json))
    (flat : ∀ nested, Entries.get? "index" settings ≠ some (.object nested)) :
    Entries.get? key (manageSetting key value settings) = some value := by
  have kept := Entries.get?_erase_of_ne hk.2 settings
  unfold manageSetting
  dsimp only
  generalize Entries.erase ("index." ++ key) settings = rest at kept
  split
  · rename_i nested there
    exact absurd (kept.symm.trans there) (flat nested)
  · rw [Entries.get?_insert, if_pos rfl]

/-- The other members stay. -/
theorem get?_manageSetting_of_ne (value : Json) (settings : List (String × Json))
    (hi : "index" ≠ other) (hk : key ≠ other) (hd : "index." ++ key ≠ other) :
    Entries.get? other (manageSetting key value settings) = Entries.get? other settings := by
  unfold manageSetting
  dsimp only
  split
  · rw [Entries.get?_erase_of_ne hk, Entries.get?_insert, if_neg hi, Entries.get?_erase_of_ne hd]
  · rw [Entries.get?_insert, if_neg hk, Entries.get?_erase_of_ne hd]

/-- **A managed setting is the one that is read.** -/
theorem readSetting_manageSetting (hk : Unnested key) (value : Json)
    (settings : List (String × Json)) :
    readSetting (.object (manageSetting key value settings)) key = some value := by
  have nested := get?_index_manageSetting hk value settings
  have plain := get?_manageSetting_of_flat hk value settings
  unfold readSetting Json.get?
  dsimp only
  rw [nested]
  cases there : Entries.get? "index" settings with
  | none =>
    rw [plain (by rw [there]; simp)]
    rfl
  | some j =>
    cases j with
    | object members =>
      show (Entries.get? key (Entries.insert key value members) <|> _) = _
      rw [Entries.get?_insert, if_pos rfl]
      rfl
    | _ =>
      rw [plain (by rw [there]; simp)]
      rfl

/-- **Other settings are spelled as they were.** -/
theorem spellings_manageSetting_of_apart (hk : Unnested key) (ho : Unnested other)
    (h : Apart key other) (value : Json) (settings : List (String × Json)) :
    spellings (.object (manageSetting key value settings)) other = spellings
      (.object settings) other := by
  have apart : ∀ spelling ∈ [other, "index." ++ other], key ≠ spelling ∧
    "index." ++ key ≠ spelling :=
    fun spelling hs =>
      ⟨fun same => h key (by simp) (same ▸ hs), fun same =>
        h ("index." ++ key) (by simp) (same ▸ hs)⟩
  obtain ⟨plain, plain'⟩ := apart other (by simp)
  obtain ⟨dotted, dotted'⟩ := apart ("index." ++ other) (by simp)
  unfold spellings
  show [(Entries.get? "index" _).bind _, Entries.get? other _, Entries.get? ("index." ++ other) _] =
    [(Entries.get? "index" _).bind _, Entries.get? other _, Entries.get? ("index." ++ other) _]
  rw [get?_index_manageSetting hk, get?_manageSetting_of_ne value settings ho.1.symm plain plain',
    get?_manageSetting_of_ne value settings ho.2.symm dotted dotted']
  cases Entries.get? "index" settings with
  | none => rfl
  | some j => exact congrArg (· :: _) (Json.get?_nest_of_ne plain value j)

/-- So they read as they did. -/
theorem readSetting_manageSetting_of_apart (hk : Unnested key) (ho : Unnested other)
    (h : Apart key other) (value : Json) (settings : List (String × Json)) :
    readSetting (.object (manageSetting key value settings)) other = readSetting
      (.object settings) other := by
  rw [readSetting_eq_head, readSetting_eq_head, spelled, spelled,
    spellings_manageSetting_of_apart hk ho h]

/-! ## The managed settings of a tuning -/

theorem readSetting_replicas (settings : Json) (t : Tuning) :
    readSetting (managedSettings settings t) "number_of_replicas" =
      (t.replicas.map Json.ofNat <|> readSetting settings "number_of_replicas") := by
  have own := readSetting_manageSetting (show Unnested "number_of_replicas" by decide)
  have other := readSetting_manageSetting_of_apart (show Unnested "refresh_interval" by decide)
    (show Unnested "number_of_replicas" by decide) (by decide)
  rw [← readSetting_members settings]
  unfold managedSettings Tuning.managed
  generalize settings.asObject?.getD [] = members
  cases t.replicas <;> cases t.refreshInterval <;> simp [other, own]

theorem readSetting_refreshInterval (settings : Json) (t : Tuning) :
    readSetting (managedSettings settings t) "refresh_interval" =
      (t.refreshInterval.map Json.string <|> readSetting settings "refresh_interval") := by
  have own := readSetting_manageSetting (show Unnested "refresh_interval" by decide)
  have other := readSetting_manageSetting_of_apart (show Unnested "number_of_replicas" by decide)
    (show Unnested "refresh_interval" by decide) (by decide)
  rw [← readSetting_members settings]
  unfold managedSettings Tuning.managed
  generalize settings.asObject?.getD [] = members
  cases t.replicas <;> cases t.refreshInterval <;> simp [other, own]

namespace MemoryIndex

/-- The number of replicas and the refresh interval that creation settings ask for. -/
def requested (settings : Json) : Nat × String := (replicasOf settings, refreshIntervalOf settings)

/-- **An index is made with what was asked for**, the managed settings in their place. A number of
replicas has 32 bits. -/
theorem effective_fresh (settings mappings : Json) {t : Tuning}
    (narrow : ∀ n ∈ t.replicas, n < UInt32.size) :
    MemoryCluster.effective (.fresh (managedSettings settings t) mappings) =
      t.restoreUpdate.apply (requested settings) := by
  have replicas : replicasOf (managedSettings settings t) = t.replicas.getD
    (replicasOf settings) := by
    unfold replicasOf
    rw [readSetting_replicas]
    cases hr : t.replicas with
    | none => rfl
    | some n => exact Nat.mod_eq_of_lt (narrow n hr)
  have interval : refreshIntervalOf (managedSettings settings t) =
      t.refreshInterval.getD (refreshIntervalOf settings) := by
    unfold refreshIntervalOf
    rw [readSetting_refreshInterval]
    cases t.refreshInterval <;> rfl
  exact Prod.ext replicas interval

end MemoryIndex

end Reindex
