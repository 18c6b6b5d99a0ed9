import Reindex.Proofs.Cluster.Documents
import Reindex.Proofs.Json.Survival

/-!
# Operations that are carried out again

A batch that is sent once more finds the documents as it left them. What operations make of a
document, one after another, takes one of three forms: they leave it, or they make it one thing
whatever it was, or they put members into it if it is an object. Each of these, done again, changes
nothing more, even where an operation fails the first time and not the second.

The last form needs that objects survive being written and read, since members are put into what is
read from the text that was written before.

Main statements: `Rewriting.again` for one document and `MemoryCluster.bulk_again` for a call.
-/

namespace Reindex

namespace Dict

variable {α : Type}

theorem mergeInto_assoc (a b c : Dict α) :
    (a.mergeInto b).mergeInto c = a.mergeInto (b.mergeInto c) := by
  refine ext_get? fun key => ?_
  simp only [get?_mergeInto]
  cases c.get? key <;> rfl

theorem mergeInto_self (d : Dict α) : d.mergeInto d = d := by
  refine ext_get? fun key => ?_
  rw [get?_mergeInto]
  cases d.get? key <;> rfl

end Dict

namespace Json

theorem Reparses.survives {text : String} (h : Reparses text) {members : Dict Json}
    (writes : members? text = some members) :
    Survives (.object members.entries) :=
  h _ (members?_eq_some.1 writes)

end Json

open Json (members? members?_eq_some Reparses Survives)

/-! ## One document -/

/-- A document with members put into it, if it is an object, and as it was if not. -/
def putMembers (members : Dict Json) (stored : Option String) : Option String :=
  match stored.bind members? with
  | some base => some (Json.object (base.mergeInto members).entries).text
  | none => stored

/-- There is no document, or one whose value survives. -/
def Legible (stored : Option String) : Prop := ∀ text ∈ stored, Reparses text

theorem legible_putMembers {members : Dict Json} (survives : Survives (.object members.entries))
    {stored : Option String} (legible : Legible stored) : Legible (putMembers members stored) := by
  cases stored with
  | none => exact nofun
  | some text =>
    cases writes : members? text with
    | none => simpa [putMembers, writes] using legible
    | some base =>
      have merged : Survives (.object (base.mergeInto members).entries) :=
        ((legible text rfl).survives writes).mergeInto survives
      simpa [putMembers, writes, Legible] using merged.reparses

/-- Members put in one after the other. -/
theorem putMembers_putMembers {first second : Dict Json} (survives : Survives (.object first.entries)) {stored : Option String}
    (legible : Legible stored) :
    putMembers second (putMembers first stored) = putMembers (first.mergeInto second) stored := by
  cases stored with
  | none => rfl
  | some text =>
    cases writes : members? text with
    | none => simp [putMembers, writes]
    | some base =>
      have merged : Survives (.object (base.mergeInto first).entries) := ((legible text rfl).survives writes).mergeInto survives
      have back : members? (Json.object (base.mergeInto first).entries).text = some (base.mergeInto first) :=
        members?_eq_some.2 merged
      simp [putMembers, writes, back, Dict.mergeInto_assoc]

/-- What becomes of a document in a number of steps: nothing, one thing whatever it was, or members
put into it. -/
inductive Rewriting (f : Option String → Option String) : Prop
  | keeps (h : ∀ stored, f stored = stored)
  | sets (document : Option String) (h : ∀ stored, f stored = document)
  | puts (members : Dict Json) (survives : Survives (.object members.entries))
      (h : ∀ stored, Legible stored → f stored = putMembers members stored)

namespace Rewriting

variable {f g : Option String → Option String}

/-- One number of steps after another. -/
theorem comp (hf : Rewriting f) (hg : Rewriting g) : Rewriting fun stored => g (f stored) := by
  cases hg with
  | keeps hg =>
    cases hf with
    | keeps hf => exact .keeps fun stored => (hg _).trans (hf stored)
    | sets document hf => exact .sets document fun stored => (hg _).trans (hf stored)
    | puts members survives hf => exact .puts members survives fun stored legible => (hg _).trans (hf stored legible)
  | sets document hg => exact .sets document fun stored => hg _
  | puts second survives hg =>
    cases hf with
    | keeps hf => exact .puts second survives fun stored legible => by rw [hf, hg stored legible]
    | sets document hf =>
      -- members go into one thing whatever was there, so whether that survives does not matter
      exact .sets (g document) fun stored => congrArg g (hf stored)
    | puts first survives' hf =>
      refine .puts (first.mergeInto second) (survives'.mergeInto survives) fun stored legible => ?_
      rw [hf stored legible, hg _ (legible_putMembers survives' legible),
        putMembers_putMembers survives' legible]

/-- **Done again, nothing changes.** -/
theorem again (hf : Rewriting f) {stored : Option String} (legible : Legible stored) :
    f (f stored) = f stored := by
  cases hf with
  | keeps hf => exact hf _
  | sets document hf => rw [hf, hf]
  | puts members survives hf =>
    rw [hf stored legible, hf _ (legible_putMembers survives legible), putMembers_putMembers survives legible,
      Dict.mergeInto_self]

end Rewriting

namespace Operation

/-- An operation that brings no patch, or one whose value survives. -/
def LegiblePatch (op : Operation) : Prop := op.kind = .update → ∀ patch ∈ op.body, Reparses patch

theorem rewriting_rewrite (failing : List String) {op : Operation} (patches : op.LegiblePatch) :
    Rewriting fun stored => op.rewrite failing stored := by
  obtain ⟨kind, id, body⟩ := op
  unfold rewrite edit
  cases kind with
  | delete => exact .sets none fun _ => rfl
  | index =>
    cases body with
    | none => exact .keeps fun _ => rfl
    | some document =>
      by_cases fails : id ∈ failing
      · exact .keeps fun _ => by simp [fails, Edit.after]
      · exact .sets (some document) fun _ => by simp [fails, Edit.after]
  | update =>
    cases body with
    | none => exact .keeps fun _ => rfl
    | some patch =>
      by_cases fails : id ∈ failing
      · exact .keeps fun _ => by simp [fails, Edit.after]
      · cases brings : members? patch with
        | none => exact .keeps fun stored => by cases stored <;> simp [fails, mergedText?_eq, brings, Edit.after]
        | some members =>
          refine .puts members ((patches rfl patch rfl).survives brings) fun stored _ => ?_
          cases stored with
          | none => simp [fails, putMembers, Edit.after]
          | some text =>
            cases writes : members? text <;>
              simp [fails, putMembers, mergedText?_eq, brings, writes, Edit.after]

theorem rewriting_foldl (failing : List String) {ops : List Operation}
    (patches : ∀ op ∈ ops, op.LegiblePatch) :
    Rewriting fun stored => ops.foldl (rewrite failing) stored := by
  induction ops with
  | nil => exact .keeps fun _ => rfl
  | cons op ops ih =>
    obtain ⟨first, others⟩ := List.forall_mem_cons.1 patches
    exact (rewriting_rewrite failing first).comp (ih others)

/-- The documents of an index, if those that the operations are on are legible. -/
theorem foldl_revise_again (failing : List String) {ops : List Operation}
    (patches : ∀ op ∈ ops, op.LegiblePatch) {docs : Dict String}
    (legible : ∀ op ∈ ops, Legible (docs.get? op.id)) :
    ops.foldl (revise failing) (ops.foldl (revise failing) docs) = ops.foldl
      (revise failing) docs := by
  refine Dict.ext_get? fun id => ?_
  simp only [get?_foldl_revise]
  have among : ∀ op ∈ ops.filter (·.id = id), op ∈ ops ∧ op.id = id := fun op hop => by
    simpa using List.mem_filter.1 hop
  cases own : ops.filter (·.id = id) with
  | nil => rfl
  | cons op rest =>
    rw [own] at among
    obtain ⟨hop, rfl⟩ := among op (.head _)
    exact (rewriting_foldl failing fun op hop => patches op (among op hop).1).again (legible op hop)

end Operation

/-! ## The cluster in memory -/

namespace MemoryCluster

/-- A call that nothing is in the way of. -/
theorem bulk_revises {c : MemoryCluster} (quiet : c.Quiet) (index : String) (ops : List Operation) :
    (bulk index ops c).2 =
      { c.mapDocs index (ops.foldl (Operation.revise c.failingIds)) with bulkBatches :=
        c.bulkBatches ++ [ops.length] } := by
  unfold bulk
  dsimp only
  rw [if_neg (by rw [quiet.transportFailures]; decide)]
  exact applyAll_revises (c := { c with bulkBatches := c.bulkBatches ++ [ops.length] })
    quiet.rejections index ops

/-- **A batch that is carried out again changes nothing more.** Where nothing is in the way of bulk
calls, the same operations in a second call, whichever of them fail in the one and whichever in the
other, leave every index as the first call left it. This is so if the values of the documents that
they are on, and of the patches that they bring, are read back from their own compact texts. -/
theorem bulk_again {c : MemoryCluster} (quiet : c.Quiet) (index : String) {ops : List Operation}
    (stored : ∀ docs ∈ c.docs? index, ∀ op ∈ ops, ∀ text ∈ docs.get? op.id, Reparses text)
    (patches : ∀ op ∈ ops, op.kind = .update → ∀ patch ∈ op.body, Reparses patch) :
    (bulk index ops (bulk index ops c).2).2.indices = (bulk index ops c).2.indices := by
  have revised := bulk_revises quiet index ops
  generalize (bulk index ops c).2 = d at revised ⊢
  have quiet' : d.Quiet := by
    rw [revised]
    exact ⟨quiet.rejections, quiet.transportFailures⟩
  have failing : d.failingIds = c.failingIds := by
    rw [revised]
    rfl
  have left : d.docs? index = (c.docs? index).map (ops.foldl (Operation.revise c.failingIds)) := by
    rw [revised]
    exact (docs?_mapDocs c index index _).trans (if_pos rfl)
  have nothing : d.mapDocs index (ops.foldl (Operation.revise c.failingIds)) = d := by
    refine mapDocs_eq_self fun docs present => ?_
    rw [left] at present
    obtain ⟨before, there, rfl⟩ := Option.map_eq_some_iff.1 present
    exact Operation.foldl_revise_again c.failingIds patches (stored before there)
  rw [bulk_revises quiet', failing, nothing]

/-- Of two calls with the same operations, an update fails in the first since its document is not
there yet, and not in the second. -/
theorem bulk_again_failing_once :
    let docs : Dict String :=
      Dict.ofList [("a", "\x7b \"title\": \"Emma\", \"year\": 1815 \x7d"), ("c", "no object")]
    let books : MemoryIndex := { replicas := 1, refreshInterval := "1s", docs }
    let c : MemoryCluster := { indices := Dict.ofList [("books1", books)], failingIds := ["d"] }
    let ops : List Operation :=
      [⟨.update, "a", some "\x7b\"year\": 1816\x7d"⟩,
        ⟨.update, "b", some "\x7b\"pages\": [1, 2.5]\x7d"⟩,
          ⟨.index, "b", some "\x7b\"pages\": null\x7d"⟩, ⟨.update, "c", some "\x7b\x7d"⟩,
        ⟨.index, "d", some "\x7b\x7d"⟩]
    let errors (answer : BulkAnswer) : List Bool :=
      match answer with
      | .items results => results.map (·.error.isSome)
      | _ => []
    errors (bulk "books1" ops c).1 = [false, true, false, true, true] ∧
      errors (bulk "books1" ops (bulk "books1" ops c).2).1 = [false, false, false, true, true] ∧
      (bulk "books1" ops (bulk "books1" ops c).2).2.indices = (bulk "books1" ops c).2.indices := by
  intro docs books c ops errors
  exact ⟨by decide +kernel, by decide +kernel, bulk_again ⟨rfl, rfl⟩ "books1" (by decide +kernel) (by decide +kernel)⟩

end MemoryCluster

end Reindex
