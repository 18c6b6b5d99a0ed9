import Reindex.Cluster.Deployment
import Reindex.Proofs.Bulk.Acknowledged

/-!
# Answers that fit

The cluster in memory answers each operation of a bulk call, one after another. A REST interface may
answer whatever it likes; the client reads results out of its answer only if there is one item for
each operation, and takes kind and id of each from the operation. So the answers of either fit what
was sent. The cluster in memory also gives a reason whenever it pushes an operation back.

Main statements: `MemoryCluster.aligned`, `RestClient.aligned`, `Deployment.aligned` and
`MemoryCluster.candid`.
-/

namespace Reindex

theorem ItemResult.candid_done (op : Operation) {status : Nat} (h : status ≠ tooManyRequests) :
    (done op status).Candid :=
  fun hr => absurd (beq_iff_eq.1 hr) h

theorem MemoryIndex.candid_apply (ix : MemoryIndex) (op : Operation) : (ix.apply op).1.Candid := by
  unfold apply
  split
  · exact ItemResult.candid_done op (by split <;> decide)
  · split
    · exact fun _ => rfl
    · split
      · exact fun _ => rfl
      · exact ItemResult.candid_done op (by decide)
  · exact ItemResult.candid_done op (by split <;> decide)
  · exact fun _ => rfl

theorem MemoryCluster.candid_apply (index : String) (op : Operation) (c : MemoryCluster) :
    (c.apply index op).1.Candid := by
  unfold apply
  split
  · exact fun _ => rfl
  · split
    · exact fun _ => rfl
    · split
      · exact fun _ => rfl
      · exact MemoryIndex.candid_apply _ op

theorem MemoryCluster.candid_applyAll (index : String) (ops : List Operation) (c : MemoryCluster) :
    ∀ r ∈ (applyAll index ops c).1, r.Candid := by
  induction ops generalizing c with
  | nil => exact fun r hr => by cases hr
  | cons op ops ih =>
    intro r hr
    rcases List.mem_cons.1 hr with rfl | hr
    · exact candid_apply index op c
    · exact ih _ r hr

theorem MemoryCluster.aligned : MemoryCluster.cluster.Aligned := by
  intro ticket index ops c
  show (bulk index ops c).1.Fits ops
  unfold bulk
  dsimp only
  split
  · trivial
  · exact applyAll_aligned index ops _

theorem MemoryCluster.candid : MemoryCluster.cluster.Candid := by
  intro ticket index ops c
  show (bulk index ops c).1.Candid
  unfold bulk
  dsimp only
  split
  · trivial
  · exact candid_applyAll index ops _

namespace BulkBody

theorem decodeItems_aligned {ops : List Operation} {items : List Json} {results : List ItemResult}
    (hl : items.length = ops.length) (h : decodeItems ops items = .ok results) :
    results.map ItemResult.target = ops.map Operation.target := by
  induction ops generalizing items results with
  | nil =>
    unfold decodeItems at h
    cases h
    rfl
  | cons op ops ih =>
    cases items with
    | nil => cases hl
    | cons item items =>
      unfold decodeItems at h
      cases hr : decodeItem op item with
      | error failure =>
        rw [hr] at h
        cases h
      | ok r =>
        cases hs : decodeItems ops items with
        | error failure =>
          rw [hr, hs] at h
          cases h
        | ok rs =>
          rw [hr, hs] at h
          cases h
          obtain ⟨kind, id⟩ := decodeItem_aligned hr
          rw [List.map_cons, List.map_cons, ih (Nat.succ.inj hl) hs]
          exact congrArg (· :: _) (Prod.ext kind id)

theorem bind_mapError_of_ok {ε ε' α β : Type} (a : α) (f : ε → ε') (k : α → Except ε' β) :
    ((Except.ok a : Except ε α).mapError f >>= k) = k a := rfl

theorem decode_aligned {ops : List Operation} {body : String} {results : List ItemResult}
    (h : decode ops body = .ok results) :
    results.map ItemResult.target = ops.map Operation.target := by
  unfold decode at h
  cases hp : Json.parse body with
  | error e =>
    rw [hp] at h
    cases h
  | ok answer =>
    rw [hp, bind_mapError_of_ok] at h
    split at h
    · cases h
    · split at h
      · rename_i hl
        exact decodeItems_aligned hl h
      · cases h

end BulkBody

namespace RestClient

theorem bulkAnswer_fits (ops : List Operation) (status : Nat) (body : String) :
    (bulkAnswer ops status body).Fits ops := by
  unfold bulkAnswer
  split
  · split
    · rename_i items hd
      exact BulkBody.decode_aligned hd
    · trivial
  · trivial

theorem aligned (c : RestClient) : c.cluster.Aligned := by
  intro ticket index ops w
  show (c.bulk index ops w).1.Fits ops
  unfold bulk
  split
  · trivial
  · dsimp only
    split
    · trivial
    · trivial
    · exact bulkAnswer_fits ops _ _

end RestClient

/-- **The answers of every deployment fit what was sent.** -/
theorem Deployment.aligned : Deployment.cluster.Aligned := by
  intro ticket index ops d
  cases d with
  | memory c => exact MemoryCluster.aligned ticket index ops c
  | rest client wire => exact client.aligned ticket index ops wire

end Reindex
