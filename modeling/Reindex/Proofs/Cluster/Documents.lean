import Reindex.Bulk.Ledger
import Reindex.Calls
import Reindex.Cluster.Memory
import Reindex.Proofs.Json.Members

/-!
# What operations do to documents

An operation on a document, by itself: `index` stores the document that it brings, `update` puts its
members into the stored object, `delete` removes what is there. It fails where it brings nothing,
where its document cannot be stored, and an update also where one of the two is missing or is no
object. Nothing here knows of clusters or batches.

Operations on different documents do not disturb each other: `Operation.revise_comm`.

A cluster in memory that pushes nothing back carries out the operations of a call one after another.

Main statements: `MemoryCluster.applyAll_revises` for the documents and
`MemoryCluster.applyAll_accounts` for the ledger.
-/

namespace Reindex

/-! ## One operation -/

/-- The text of an object with the members of another in place of its own. -/
def mergedText? (stored patch : String) : Option String :=
  match Json.parse stored, Json.parse patch with
  | .ok (.object base), .ok (.object members) =>
    some (Json.object ((Dict.ofList base).mergeInto (Dict.ofList members)).entries).text
  | _, _ => none

/-- What becomes of a document. -/
inductive Edit where
  | store (document : String)
  | remove
  /-- The operation fails, and the document stays as it is. -/
  | refuse
deriving DecidableEq, Repr

namespace Edit

/-- The operation was carried out. -/
def isDone : Edit → Bool
  | .refuse => false
  | _ => true

/-- The document under the same id afterwards. -/
def after (stored : Option String) : Edit → Option String
  | .store document => some document
  | .remove => none
  | .refuse => stored

/-- The documents of an index afterwards. -/
def applyTo (docs : Dict String) (id : String) : Edit → Dict String
  | .store document => docs.insert id document
  | .remove => docs.erase id
  | .refuse => docs

theorem get?_applyTo (e : Edit) (docs : Dict String) (id other : String) :
    (e.applyTo docs id).get? other = if id = other then e.after
    (docs.get? id) else docs.get? other := by
  cases e with
  | store document => exact Dict.get?_insert docs id other document
  | remove => exact Dict.get?_erase docs id other
  | refuse =>
    by_cases h : id = other
    · simp [applyTo, after, h]
    · simp [applyTo, h]

end Edit

namespace Operation

/-- What an operation makes of the document with its id, given the ids that cannot be stored. -/
def edit (failing : List String) (stored : Option String) (op : Operation) : Edit :=
  match op.kind, op.body with
  | .delete, _ => .remove
  | _, none => .refuse
  | .index, some document => if op.id ∈ failing then .refuse else .store document
  | .update, some patch =>
    if op.id ∈ failing then .refuse
    else
      match stored.bind (mergedText? · patch) with
      | some document => .store document
      | none => .refuse

/-- The document under the id of an operation, afterwards. -/
def rewrite (failing : List String) (stored : Option String) (op : Operation) : Option String :=
  (op.edit failing stored).after stored

/-- The documents of an index after an operation. -/
def revise (failing : List String) (docs : Dict String) (op : Operation) : Dict String :=
  (op.edit failing (docs.get? op.id)).applyTo docs op.id

theorem get?_revise (failing : List String) (docs : Dict String) (op : Operation) (id : String) :
    (op.revise failing docs).get? id = if op.id = id then op.rewrite failing
    (docs.get? id) else docs.get? id := by
  unfold revise
  rw [Edit.get?_applyTo]
  by_cases h : op.id = id
  · subst h
    rfl
  · rw [if_neg h, if_neg h]

/-- **A document is the work of the operations on it,** in their order, and of no others. -/
theorem get?_foldl_revise (failing : List String) (ops : List Operation) (docs : Dict String)
    (id : String) :
    (ops.foldl (revise failing) docs).get? id =
      (ops.filter (·.id = id)).foldl (rewrite failing) (docs.get? id) := by
  induction ops generalizing docs with
  | nil => rfl
  | cons op ops ih =>
    rw [List.foldl_cons, ih, get?_revise]
    by_cases h : op.id = id
    · rw [if_pos h, List.filter_cons_of_pos (by simpa using h), List.foldl_cons]
    · rw [if_neg h, List.filter_cons_of_neg (by simpa using h)]

/-- An operation sees the same document before and after an operation on another. -/
theorem edit_revise {a b : Operation} (failing : List String) (docs : Dict String)
    (h : a.id ≠ b.id) :
    b.edit failing ((a.revise failing docs).get? b.id) = b.edit failing (docs.get? b.id) := by
  rw [get?_revise, if_neg h]

theorem revise_comm {a b : Operation} (failing : List String) (docs : Dict String)
    (h : a.id ≠ b.id) :
    b.revise failing (a.revise failing docs) = a.revise failing (b.revise failing docs) := by
  refine Dict.ext_get? fun id => ?_
  simp only [get?_revise]
  by_cases ha : a.id = id
  · have hb : b.id ≠ id := fun hb => h (ha.trans hb.symm)
    simp [ha, hb]
  · simp [ha]

end Operation

/-! ## The ledger -/

namespace RunCounters

/-- The counters of one operation. -/
def ofOutcome (kind : OpKind) (done : Bool) : RunCounters :=
  if done then
    match kind with
    | .delete => { deleted := 1 }
    | _ => { succeeded := 1 }
  else { failed := 1 }

end RunCounters

/-- The ledger with one more operation that was carried out, or failed. -/
def RunTally.enter (t : RunTally) (kind : OpKind) (done : Bool) : RunTally :=
  let one := RunCounters.ofOutcome kind done
  { counters :=
      { succeeded := t.counters.succeeded + one.succeeded
        failed := t.counters.failed + one.failed
        deleted := t.counters.deleted + one.deleted }
    failed := t.failed || !done }

theorem RunTally.enter_comm (t : RunTally) (k l : OpKind) (a b : Bool) :
    (t.enter k a).enter l b = (t.enter l b).enter k a := by
  unfold enter
  simp only [Nat.add_right_comm, Bool.or_right_comm]

theorem RunTally.bookItem_of_outcome (t : RunTally) (r : ItemResult) :
    t.bookItem r = t.enter r.kind r.error.isNone := by
  obtain ⟨kind, id, status, error⟩ := r
  cases error <;> cases kind <;> simp [bookItem, enter, RunCounters.ofOutcome]

/-- The documents of an index, none if there is no such index, and the ledger of those who write
into it. -/
structure Accounted where
  docs : Option (Dict String)
  tally : RunTally
deriving DecidableEq

namespace Accounted

/-- An operation carried out and accounted for. Where there is no index it fails. -/
def execute (failing : List String) (a : Accounted) (op : Operation) : Accounted :=
  { docs := a.docs.map fun docs => op.revise failing docs
    tally := a.tally.enter op.kind (a.docs.any fun docs =>
      (op.edit failing (docs.get? op.id)).isDone) }

/-- Operations one after another. -/
def executeAll (failing : List String) (ops : List Operation) (a : Accounted) : Accounted :=
  ops.foldl (execute failing) a

theorem executeAll_append (failing : List String) (xs ys : List Operation) (a : Accounted) :
    executeAll failing (xs ++ ys) a = executeAll failing ys (executeAll failing xs a) :=
  List.foldl_append

theorem docs_executeAll (failing : List String) (ops : List Operation) (a : Accounted) :
    (executeAll failing ops a).docs = a.docs.map fun docs => ops.foldl
    (Operation.revise failing) docs := by
  induction ops generalizing a with
  | nil => exact (Option.map_id_fun' ▸ rfl : a.docs = a.docs.map fun docs => docs)
  | cons op ops ih =>
    show (executeAll failing ops (a.execute failing op)).docs = _
    rw [ih, execute, Option.map_map]
    rfl

/-- **Each operation is counted once.** -/
theorem total_executeAll (failing : List String) (ops : List Operation) (a : Accounted) :
    (executeAll failing ops a).tally.counters.total = a.tally.counters.total + ops.length := by
  induction ops generalizing a with
  | nil => rfl
  | cons op ops ih =>
    have one : (a.execute failing op).tally.counters.total = a.tally.counters.total + 1 := by
      simp only [execute, RunTally.enter, RunCounters.ofOutcome, RunCounters.total]
      cases op.kind <;> split <;> simp <;> omega
    have rest := ih (a.execute failing op)
    rw [one] at rest
    rw [List.length_cons, ← Nat.add_assoc, Nat.add_right_comm]
    exact rest

/-- **Operations on different documents may change places.** -/
theorem execute_comm (failing : List String) (a : Accounted) {x y : Operation} (h : x.id ≠ y.id) :
    (a.execute failing x).execute failing y = (a.execute failing y).execute failing x := by
  obtain ⟨docs, tally⟩ := a
  unfold execute
  cases docs with
  | none => simp [RunTally.enter_comm tally x.kind]
  | some docs =>
    simp only [Option.map_some, Option.any_some, Operation.edit_revise failing docs h,
      Operation.edit_revise failing docs h.symm, Operation.revise_comm failing docs h,
      RunTally.enter_comm tally x.kind]

end Accounted

/-! ## The cluster in memory -/

/-- A merge either way. -/
theorem mergeDocuments_eq (stored patch : String) :
    match mergeDocuments stored patch with
    | .ok merged => mergedText? stored patch = some merged
    | .error _ => mergedText? stored patch = none := by
  unfold mergeDocuments mergedText?
  cases hs : Json.parse stored with
  | error e => simp
  | ok j =>
    cases hp : Json.parse patch with
    | error e => simp
    | ok i =>
      cases j with
      | object base =>
        cases i with
        | object members =>
          have listed : Entries.Ordered base := Json.listed_of_parse hs
          have listed' : Entries.Ordered members := Json.listed_of_parse hp
          have taken : Dict.ofList base = ⟨base, listed⟩ := Dict.ofList_entries ⟨base, listed⟩
          have taken' : Dict.ofList members = ⟨members, listed'⟩ :=
            Dict.ofList_entries ⟨members, listed'⟩
          simp only [taken, taken', Dict.mergeInto, Dict.entries_foldl_insert]
          rfl
        | _ => rfl
      | _ => cases i <;> rfl

namespace Json

/-- The members of the object that a text writes, if it writes one. -/
def members? (text : String) : Option (Dict Json) :=
  match parse text with
  | .ok (.object ms) => some (Dict.ofList ms)
  | _ => none

theorem members?_eq_some {text : String} {members : Dict Json} :
    members? text = some members ↔ parse text = .ok (.object members.entries) := by
  unfold members?
  constructor
  · intro h
    split at h
    · rename_i ms parsed
      cases h
      have listed : Entries.Ordered ms := listed_of_parse parsed
      rw [parsed, show (Dict.ofList ms).entries = ms from Entries.ofList_of_ordered listed]
    · cases h
  · intro h
    rw [h]
    exact congrArg some (Dict.ofList_entries members)

end Json

theorem mergedText?_eq (stored patch : String) : mergedText? stored patch =
    (Json.members? stored).bind fun base => (Json.members? patch).map fun members =>
      (Json.object (base.mergeInto members).entries).text := by
  unfold mergedText? Json.members?
  split
  · rename_i hs hp
    rw [hs, hp]
    rfl
  · rename_i neither
    cases hs : Json.parse stored with
    | error e => rfl
    | ok j =>
      cases hp : Json.parse patch with
      | error e => cases j <;> rfl
      | ok i =>
        cases j with
        | object base =>
          cases i with
          | object members => exact absurd hp (neither base members hs)
          | _ => rfl
        | _ => rfl

/-- A merge works out where both texts are objects, and puts the members of the one into the
other. -/
theorem mergedText?_eq_some {stored patch text : String}
    (h : mergedText? stored patch = some text) :
    ∃ base members : Dict Json, Json.parse stored = .ok (.object base.entries) ∧
      Json.parse patch = .ok (.object members.entries) ∧
      text = (Json.object (base.mergeInto members).entries).text := by
  rw [mergedText?_eq] at h
  obtain ⟨base, hs, h⟩ := Option.bind_eq_some_iff.1 h
  obtain ⟨members, hp, rfl⟩ := Option.map_eq_some_iff.1 h
  exact ⟨base, members, Json.members?_eq_some.1 hs, Json.members?_eq_some.1 hp, rfl⟩

namespace MemoryCluster

/-- The documents of an index, if there is one of that name. -/
def docs? (c : MemoryCluster) (index : String) : Option (Dict String) :=
  (c.indices.get? index).map (·.docs)

/-- The indices with other documents in one of them. -/
def reviseDocs (indices : Dict MemoryIndex) (index : String) (f : Dict String → Dict String) :
    Dict MemoryIndex :=
  match indices.get? index with
  | some ix => indices.insert index { ix with docs := f ix.docs }
  | none => indices

/-- The cluster with other documents in one index. -/
def mapDocs (c : MemoryCluster) (index : String) (f : Dict String → Dict String) : MemoryCluster :=
  { c with indices := reviseDocs c.indices index f }

theorem get?_reviseDocs (indices : Dict MemoryIndex) (index name : String)
    (f : Dict String → Dict String) :
    (reviseDocs indices index f).get? name =
      if index = name then (indices.get? name).map fun ix => { ix with docs := f ix.docs }
      else indices.get? name := by
  unfold reviseDocs
  cases hi : indices.get? index with
  | none =>
    by_cases h : index = name
    · subst h
      simp [hi]
    · simp [h]
  | some ix =>
    dsimp only
    rw [Dict.get?_insert]
    by_cases h : index = name
    · subst h
      simp [hi]
    · simp [h]

theorem docs?_mapDocs (c : MemoryCluster) (index name : String) (f : Dict String → Dict String) :
    (c.mapDocs index f).docs? name =
      if index = name then (c.docs? name).map f else c.docs? name := by
  unfold docs? mapDocs
  rw [get?_reviseDocs]
  by_cases h : index = name
  · rw [if_pos h, if_pos h, Option.map_map, Option.map_map]
    rfl
  · rw [if_neg h, if_neg h]

/-- What leaves the documents of an index alone leaves the cluster alone. -/
theorem mapDocs_eq_self {c : MemoryCluster} {index : String} {f : Dict String → Dict String}
    (h : ∀ docs ∈ c.docs? index, f docs = docs) : c.mapDocs index f = c := by
  refine congrArg (fun indices => { c with indices }) (Dict.ext_get? fun name => ?_)
  rw [get?_reviseDocs]
  by_cases hn : index = name
  · subst hn
    cases hi : c.indices.get? index with
    | none => simp
    | some ix =>
      have kept := h ix.docs (by simp [docs?, hi])
      simp [kept]
  · rw [if_neg hn]

theorem mapDocs_mapDocs (c : MemoryCluster) (index : String) (f g : Dict String → Dict String) :
    (c.mapDocs index f).mapDocs index g = c.mapDocs index fun docs => g (f docs) := by
  refine congrArg (fun indices => { c with indices }) (Dict.ext_get? fun name => ?_)
  simp only [mapDocs, get?_reviseDocs]
  by_cases h : index = name
  · simp [h, Function.comp_def]
  · simp [h]

/-- A new entry for an index that is there changes its documents and nothing else. -/
theorem mapDocs_of_get? {c : MemoryCluster} {index : String} {ix : MemoryIndex}
    (hi : c.indices.get? index = some ix) (f : Dict String → Dict String) :
    c.mapDocs index f =
      { c with indices := c.indices.insert index { ix with docs := f ix.docs } } := by
  unfold mapDocs reviseDocs
  rw [hi]

end MemoryCluster

/-- One operation on an index that is there, by an id that can be stored. -/
theorem MemoryIndex.apply_edits (ix : MemoryIndex) (op : Operation) {failing : List String}
    (h : op.kind = .delete ∨ op.id ∉ failing) :
    (ix.apply op).2 = { ix with docs := op.revise failing ix.docs } ∧
      (ix.apply op).1.error.isNone = (op.edit failing (ix.docs.get? op.id)).isDone := by
  obtain ⟨kind, id, body⟩ := op
  unfold Operation.revise apply Operation.edit
  cases kind with
  | delete => exact ⟨rfl, rfl⟩
  | index =>
    have fine : id ∉ failing := h.resolve_left (by simp)
    cases body with
    | none => exact ⟨rfl, rfl⟩
    | some document => simp [fine, Edit.applyTo, Edit.isDone, ItemResult.done]
  | update =>
    have fine : id ∉ failing := h.resolve_left (by simp)
    cases body with
    | none => exact ⟨rfl, rfl⟩
    | some patch =>
      dsimp only
      rw [if_neg fine]
      cases hs : ix.docs.get? id with
      | none => exact ⟨rfl, rfl⟩
      | some stored =>
        have merge := mergeDocuments_eq stored patch
        dsimp only [Option.bind_some]
        cases hm : mergeDocuments stored patch with
        | error fault =>
          rw [hm] at merge
          rw [merge]
          exact ⟨rfl, rfl⟩
        | ok merged =>
          rw [hm] at merge
          rw [merge]
          exact ⟨rfl, rfl⟩

namespace MemoryCluster

/-- An operation whose document cannot be stored is refused. -/
theorem edit_of_poisoned {c : MemoryCluster} {op : Operation} (h : c.isPoisoned op = true)
    (stored : Option String) :
    op.edit c.failingIds stored = .refuse := by
  obtain ⟨kind, id, body⟩ := op
  simp only [isPoisoned, Bool.and_eq_true, bne_iff_ne, ne_eq, List.contains_iff_mem] at h
  unfold Operation.edit
  cases kind with
  | delete => exact absurd rfl h.1
  | index => cases body <;> simp [h.2]
  | update => cases body <;> simp [h.2]

/-- **One operation of a bulk call,** where nothing is pushed back. -/
theorem apply_revises {c : MemoryCluster} (hr : c.rejections = 0) (index : String)
    (op : Operation) :
    (c.apply index op).2 = c.mapDocs index (op.revise c.failingIds ·) ∧
      (c.apply index op).1.error.isNone =
        (c.docs? index).any fun docs => (op.edit c.failingIds (docs.get? op.id)).isDone := by
  unfold apply
  rw [if_neg (by omega)]
  cases hi : c.indices.get? index with
  | none =>
    have absent : c.docs? index = none := by simp [docs?, hi]
    rw [absent]
    exact ⟨(mapDocs_eq_self fun docs h => by simp [absent] at h).symm, rfl⟩
  | some ix =>
    have present : c.docs? index = some ix.docs := by simp [docs?, hi]
    rw [present]
    dsimp only [Option.any_some]
    by_cases poisoned : c.isPoisoned op = true
    · have refused := edit_of_poisoned poisoned
      rw [if_pos poisoned, refused]
      refine ⟨(mapDocs_eq_self fun docs _ => ?_).symm, rfl⟩
      unfold Operation.revise
      rw [refused]
      rfl
    · have storable : op.kind = .delete ∨ op.id ∉ c.failingIds := by
        simp only [isPoisoned, Bool.and_eq_true, bne_iff_ne, ne_eq, List.contains_iff_mem]
          at poisoned
        exact Decidable.or_iff_not_imp_left.2 fun h hm => poisoned ⟨h, hm⟩
      obtain ⟨revised, done⟩ := ix.apply_edits op storable
      rw [if_neg poisoned, mapDocs_of_get? hi]
      dsimp only
      rw [revised]
      exact ⟨rfl, done⟩

theorem rejections_apply {c : MemoryCluster} (hr : c.rejections = 0) (index : String)
    (op : Operation) :
    (c.apply index op).2.rejections = 0 := by
  rw [(apply_revises hr index op).1]
  exact hr

/-- **The operations of a bulk call** are carried out one after another, where nothing is pushed
back. -/
theorem applyAll_revises {c : MemoryCluster} (hr : c.rejections = 0) (index : String)
    (ops : List Operation) :
    (applyAll index ops c).2 = c.mapDocs index (ops.foldl (Operation.revise c.failingIds)) := by
  induction ops generalizing c with
  | nil => exact (mapDocs_eq_self fun docs _ => rfl).symm
  | cons op ops ih =>
    show (applyAll index ops (c.apply index op).2).2 = _
    rw [ih (rejections_apply hr index op), (apply_revises hr index op).1, mapDocs_mapDocs]
    rfl

/-- **The results of a bulk call** are what the operations came to. -/
theorem applyAll_accounts {c : MemoryCluster} (hr : c.rejections = 0) (index : String)
    (ops : List Operation) (t : RunTally) :
    t.bookItems (applyAll index ops c).1 =
      (Accounted.executeAll c.failingIds ops ⟨c.docs? index, t⟩).tally := by
  induction ops generalizing c t with
  | nil => rfl
  | cons op ops ih =>
    obtain ⟨revised, done⟩ := apply_revises hr index op
    have kind := (apply_aligned c index op).1
    have docs : (c.apply index op).2.docs? index = (c.docs? index).map
      (op.revise c.failingIds ·) := by
      rw [revised, docs?_mapDocs, if_pos rfl]
    have failing : (c.apply index op).2.failingIds = c.failingIds := by
      rw [revised]
      rfl
    show (t.bookItem (c.apply index op).1).bookItems (applyAll index ops (c.apply index op).2).1 = _
    rw [ih (rejections_apply hr index op), RunTally.bookItem_of_outcome, kind, done, docs, failing]
    rfl

/-! ## Calls that write nothing -/

/-- The same documents in all indices, and the same that can go wrong with them. -/
structure Alike (c d : MemoryCluster) : Prop where
  docs : d.docs? = c.docs?
  failingIds : d.failingIds = c.failingIds
  transportFailures : d.transportFailures = c.transportFailures
  rejections : d.rejections = c.rejections
  latency : d.latency = c.latency

theorem Alike.refl (c : MemoryCluster) : Alike c c := ⟨rfl, rfl, rfl, rfl, rfl⟩

theorem Alike.trans {c d e : MemoryCluster} (h₁ : Alike c d) (h₂ : Alike d e) : Alike c e :=
  ⟨h₂.docs.trans h₁.docs, h₂.failingIds.trans h₁.failingIds,
    h₂.transportFailures.trans h₁.transportFailures, h₂.rejections.trans h₁.rejections,
      h₂.latency.trans h₁.latency⟩

/-- Nothing is in the way of a bulk call. -/
structure Quiet (c : MemoryCluster) : Prop where
  rejections : c.rejections = 0
  transportFailures : c.transportFailures = 0

theorem Alike.quiet {c d : MemoryCluster} (h : Alike c d) (hc : c.Quiet) : d.Quiet :=
  ⟨h.rejections.trans hc.rejections, h.transportFailures.trans hc.transportFailures⟩

/-- A change of an index that leaves its documents alone. -/
theorem alike_change (index : String) (failure : Failure) {f : MemoryIndex → MemoryIndex}
    (hf : ∀ ix, (f ix).docs = ix.docs) (c : MemoryCluster) :
    Alike c (stateAfter (change index failure f c)) := by
  unfold change
  cases hi : c.indices.get? index with
  | none => exact .refl c
  | some ix =>
    refine ⟨funext fun name => ?_, rfl, rfl, rfl, rfl⟩
    show ((c.indices.insert index (f ix)).get? name).map (·.docs) = (c.indices.get? name).map
      (·.docs)
    rw [Dict.get?_insert]
    by_cases h : index = name
    · subst h
      simp [hi, hf]
    · rw [if_neg h]

theorem alike_refreshIndex (index : String) (c : MemoryCluster) :
    Alike c (stateAfter (refreshIndex index c)) :=
  alike_change index _ (by intro; rfl) c

theorem alike_updateSettings (index : String) (update : SettingsUpdate) (c : MemoryCluster) :
    Alike c (stateAfter (updateSettings index update c)) :=
  stateAfter_bind (P := Alike c) (alike_change index _ (by intro; rfl) c) fun _ d hd =>
    hd.trans ⟨rfl, rfl, rfl, rfl, rfl⟩

end MemoryCluster

end Reindex
