import Reindex.Proofs.Cluster.Documents

/-!
# What was acknowledged was carried out

A cluster in memory goes through the operations of a bulk call one by one. One whose result has an
error left all documents as they were, for whatever reason it was refused; one whose result has none
did its work on the documents that those before it had left. A call that fails as a whole leaves
everything as it was.

Main statements: `MemoryCluster.apply_carries` for one operation and `MemoryCluster.bulk_carries`
for a call.
-/

namespace Reindex

/-- What an operation that is carried out makes of the documents of its index: `index` stores the
document that it brings, `update` puts the members that it brings into the stored object, and
`delete` removes what is there. -/
inductive Operation.Effect : Operation → Dict String → Dict String → Prop
  | index (id document : String) (docs : Dict String) :
      Effect ⟨.index, id, some document⟩ docs (docs.insert id document)
  | update {id patch stored : String} {docs : Dict String} {base members merged : Dict Json}
      (there : docs.get? id = some stored) (object : Json.parse stored = .ok (.object base.entries))
      (brings : Json.parse patch = .ok (.object members.entries))
      (put : ∀ key, merged.get? key = (members.get? key <|> base.get? key)) :
      Effect ⟨.update, id, some patch⟩ docs (docs.insert id (Json.object merged.entries).text)
  | delete (id : String) (body : Option String) (docs : Dict String) :
      Effect ⟨.delete, id, body⟩ docs (docs.erase id)

/-- What operations with these results make of the documents of their index, one after another:
where there is an error nothing, and elsewhere what the operation is to do. -/
inductive Carried : List (Operation × ItemResult) → Dict String → Dict String → Prop
  | nil (docs : Dict String) : Carried [] docs docs
  | refused {op : Operation} {r : ItemResult} {rest : List (Operation × ItemResult)}
      {docs docs' : Dict String}
      (error : r.error.isSome = true) (others : Carried rest docs docs') :
      Carried ((op, r) :: rest) docs docs'
  | done {op : Operation} {r : ItemResult} {rest : List (Operation × ItemResult)}
      {docs between docs' : Dict String} (error : r.error = none) (effect : op.Effect docs between)
      (others : Carried rest between docs') :
      Carried ((op, r) :: rest) docs docs'

/-- One operation on an index that is there. -/
theorem MemoryIndex.apply_carries (ix : MemoryIndex) (op : Operation) :
    (ix.apply op).1.error.isSome = true ∧ (ix.apply op).2 = ix ∨
      (ix.apply op).1.error = none ∧ ∃ docs, op.Effect ix.docs docs ∧
        (ix.apply op).2 = { ix with docs } := by
  obtain ⟨kind, id, body⟩ := op
  unfold apply
  cases kind with
  | delete => exact .inr ⟨rfl, _, .delete id body ix.docs, rfl⟩
  | index =>
    cases body with
    | none => exact .inl ⟨rfl, rfl⟩
    | some document => exact .inr ⟨rfl, _, .index id document ix.docs, rfl⟩
  | update =>
    cases body with
    | none => exact .inl ⟨rfl, rfl⟩
    | some patch =>
      dsimp only
      split
      · exact .inl ⟨rfl, rfl⟩
      · rename_i stored there
        have merge := mergeDocuments_eq stored patch
        split
        · exact .inl ⟨rfl, rfl⟩
        · rename_i merged works
          rw [works] at merge
          obtain ⟨base, members, object, brings, rfl⟩ := mergedText?_eq_some merge
          exact .inr ⟨rfl, _, .update there object brings (Dict.get?_mergeInto base members), rfl⟩

namespace MemoryCluster

/-- **One operation of a bulk call,** in any state of the cluster. -/
theorem apply_carries (c : MemoryCluster) (index : String) (op : Operation) :
    (c.apply index op).1.error.isSome = true ∧ (c.apply index op).2.indices = c.indices ∨
      (c.apply index op).1.error = none ∧ ∃ ix docs, c.indices.get? index = some ix ∧
        op.Effect ix.docs docs ∧
        (c.apply index op).2.indices = c.indices.insert index { ix with docs } := by
  unfold apply
  split
  · exact .inl ⟨rfl, rfl⟩
  · split
    · exact .inl ⟨rfl, rfl⟩
    · rename_i ix found
      split
      · exact .inl ⟨rfl, rfl⟩
      · rcases ix.apply_carries op with ⟨error, kept⟩ | ⟨error, docs, effect, revised⟩
        · refine .inl ⟨error, Dict.ext_get? fun name => ?_⟩
          dsimp only
          rw [kept, Dict.get?_insert]
          split
          · rename_i same
            rw [← same, found]
          · rfl
        · refine .inr ⟨error, ix, docs, found, effect, ?_⟩
          dsimp only
          rw [revised]

/-- What operations with these results leave of the indices, if they are all on one of them: the
others as they were, and its documents as the operations make them. Where that index is missing,
each of them has an error. -/
def Leaves (index : String) (told : List (Operation × ItemResult))
    (before after : Dict MemoryIndex) : Prop :=
  (∀ name, name ≠ index → after.get? name = before.get? name) ∧
    match before.get? index with
    | none => after.get? index = none ∧ ∀ p ∈ told, p.2.error.isSome = true
    | some ix => ∃ docs, Carried told ix.docs docs ∧ after.get? index = some { ix with docs }

theorem Leaves.nil (index : String) (indices : Dict MemoryIndex) :
    Leaves index [] indices indices := by
  refine ⟨fun _ _ => rfl, ?_⟩
  cases indices.get? index with
  | none => exact ⟨rfl, fun p hp => absurd hp List.not_mem_nil⟩
  | some ix => exact ⟨ix.docs, .nil ix.docs, rfl⟩

theorem Leaves.refused {index : String} {op : Operation} {r : ItemResult}
    {told : List (Operation × ItemResult)} {before after : Dict MemoryIndex}
    (error : r.error.isSome = true) (h : Leaves index told before after) :
    Leaves index ((op, r) :: told) before after := by
  obtain ⟨others, own⟩ := h
  refine ⟨others, ?_⟩
  cases found : before.get? index with
  | none =>
    rw [found] at own
    exact ⟨own.1, List.forall_mem_cons.2 ⟨error, own.2⟩⟩
  | some ix =>
    rw [found] at own
    obtain ⟨docs, carried, there⟩ := own
    exact ⟨docs, .refused error carried, there⟩

theorem Leaves.done {index : String} {op : Operation} {r : ItemResult}
    {told : List (Operation × ItemResult)} {before after : Dict MemoryIndex} {ix : MemoryIndex}
    {docs : Dict String} (error : r.error = none) (found : before.get? index = some ix)
    (effect : op.Effect ix.docs docs)
    (h : Leaves index told (before.insert index { ix with docs }) after) :
    Leaves index ((op, r) :: told) before after := by
  obtain ⟨others, own⟩ := h
  rw [Dict.get?_insert, if_pos rfl] at own
  obtain ⟨docs', carried, there⟩ := own
  refine ⟨fun name h => ?_, ?_⟩
  · rw [others name h, Dict.get?_insert, if_neg (Ne.symm h)]
  · rw [found]
    exact ⟨docs', .done error effect carried, there⟩

/-- The operations of a bulk call one after another. -/
theorem applyAll_carries (index : String) (ops : List Operation) (c : MemoryCluster) :
    Leaves index (ops.zip (applyAll index ops c).1) c.indices (applyAll index ops c).2.indices := by
  induction ops generalizing c with
  | nil => exact .nil index c.indices
  | cons op ops ih =>
    have rest := ih (c.apply index op).2
    show Leaves index
      ((op, (c.apply index op).1) :: ops.zip (applyAll index ops (c.apply index op).2).1) _ _
    rcases c.apply_carries index op with ⟨error, kept⟩ | ⟨error, ix, docs, found, effect, revised⟩
    · rw [kept] at rest
      exact .refused error rest
    · rw [revised] at rest
      exact .done error found effect rest

/-- A bulk call gives results exactly if none of its failures is left to come. -/
theorem exists_items_bulk_iff (c : MemoryCluster) (index : String) (ops : List Operation) :
    (∃ results c', bulk index ops c = (.items results, c')) ↔ c.transportFailures = 0 := by
  unfold bulk
  dsimp only
  split
  · rename_i fails
    exact ⟨fun ⟨_, _, given⟩ => (nomatch given), fun none => by omega⟩
  · exact ⟨fun _ => by omega, fun _ => ⟨_, _, rfl⟩⟩

/-- **What is acknowledged is carried out, and what is refused leaves no trace.** A bulk call gives
results exactly if no failure of a whole call is left to come. Then it gives one for each operation,
and leaves the documents as those operations make them, in order, whose results have no error. A
call that fails as a whole changes no index. -/
theorem bulk_carries (c : MemoryCluster) (index : String) (ops : List Operation) :
    ((∃ results c', bulk index ops c = (.items results, c')) ↔ c.transportFailures = 0) ∧
    match bulk index ops c with
    | (.items results, c') => results.length = ops.length ∧ Leaves index
        (ops.zip results) c.indices c'.indices
    | (.failed _, c') => c'.indices = c.indices
    | (.died, _) => False := by
  refine ⟨exists_items_bulk_iff c index ops, ?_⟩
  unfold bulk
  dsimp only
  split
  · rename_i given
    split at given
    · cases given
    · cases given
      exact ⟨applyAll_length index ops _,
        applyAll_carries index ops { c with bulkBatches := c.bulkBatches ++ [ops.length] }⟩
  · rename_i given
    split at given
    · cases given
      rfl
    · cases given
  · rename_i given
    split at given <;> cases given

end MemoryCluster

end Reindex
