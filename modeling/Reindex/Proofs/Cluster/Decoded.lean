import Mathlib.Data.List.Forall2
import Reindex.Proofs.Cluster.Aligned
import Reindex.Proofs.Json.Members

/-!
# Results place by place

The results of a bulk call stand in the places of the operations that were sent, each with the kind
and the id of its operation, whether the cluster is one in memory or one behind a REST interface.
What a result from a REST interface says of its operation is read off the item at the same place:
its first member in the order of names has the status and the error.

So the results are never too few or too many for the batch that they are for.

Main statement: `Deployment.results_in_place`; `BulkBody.tells_of_decodeItem` is one item, and
`BulkBody.decoded` a whole answer.
-/

namespace Reindex

namespace BulkBody

/-- The first member of an object, in the order of names. -/
def FirstMember (item details : Json) : Prop :=
  ∃ key, item.get? key = some details ∧ ∀ other, (item.get? other).isSome = true → key ≤ other

/-- The result says what the first member of the item does: it has an error if that has one that is
not null, and its status is that one's cut to 16 bits, or zero where there is no natural number. -/
def Tells (item : Json) (r : ItemResult) : Prop :=
  ∃ details, FirstMember item details ∧
    (r.error.isSome = true ↔ ∃ error, details.get? "error" = some error ∧ error ≠ .null) ∧
    r.status = ((details.get? "status").bind (·.asNat?)).getD 0 % 65536

/-- In an object in order the first member is the one that is listed first. -/
theorem firstMember_of_listed {key : String} {details : Json} {members : List (String × Json)}
    (ordered : Entries.Ordered ((key, details) :: members)) :
    FirstMember (.object ((key, details) :: members)) details := by
  refine ⟨key, by simp [Json.get?, Entries.get?], fun other there => ?_⟩
  obtain ⟨value, found⟩ := Option.isSome_iff_exists.1 there
  have found : Entries.get? other ((key, details) :: members) = some value := found
  rcases List.mem_cons.1 (Entries.mem_of_get? found) with same | among
  · cases same
    exact String.le_refl _
  · exact String.not_lt.1 (String.lt_asymm ((List.pairwise_cons.1 ordered).1 _ among))

/-- **One item.** -/
theorem tells_of_decodeItem {op : Operation} {item : Json} {r : ItemResult} (listed : item.Listed)
    (h : decodeItem op item = .ok r) : Tells item r := by
  unfold decodeItem at h
  split at h
  · rename_i key details members
    refine ⟨details, firstMember_of_listed listed, ?_⟩
    dsimp only at h
    split at h
    · rename_i missing
      cases h
      simp [ItemResult.done, missing]
    · rename_i null
      cases h
      simp [ItemResult.done, null]
    · rename_i error notNull present
      cases h
      refine ⟨⟨fun _ => ⟨error, present, notNull⟩, fun _ => rfl⟩, rfl⟩
  · cases h

theorem tells_of_decodeItems {ops : List Operation} {items : List Json} {results : List ItemResult}
    (listed : ∀ item ∈ items, item.Listed) (length : items.length = ops.length)
    (h : decodeItems ops items = .ok results) :
    List.Forall₂ Tells items results := by
  induction ops generalizing items results with
  | nil =>
    obtain rfl := List.length_eq_zero_iff.1 length
    cases h
    exact .nil
  | cons op ops ih =>
    cases items with
    | nil => cases length
    | cons item items =>
      obtain ⟨first, others⟩ := List.forall_mem_cons.1 listed
      unfold decodeItems at h
      obtain ⟨r, one, h⟩ := exceptBind_eq_ok h
      obtain ⟨rs, more, h⟩ := exceptBind_eq_ok h
      cases h
      exact .cons (tells_of_decodeItem first one) (ih others (Nat.succ.inj length) more)

/-- **A whole answer** whose results can be read lists one item for each operation, and tells the
results one by one. -/
theorem decoded {ops : List Operation} {body : String} {results : List ItemResult}
    (h : decode ops body = .ok results) :
    ∃ response items, Json.parse body = .ok response ∧ response.get? "items" = some (.array items) ∧
      List.Forall₂ Tells items results := by
  unfold decode at h
  obtain ⟨response, parsed, h⟩ := exceptBind_eq_ok h
  have parsed := Json.Reader.mapError_eq_ok parsed
  split at h
  · cases h
  · rename_i items found
    obtain ⟨value, there, array⟩ := Option.bind_eq_some_iff.1 found
    have listing : response.get? "items" = some (.array items) := by
      cases value with
      | array js =>
        cases array
        exact there
      | _ => cases array
    split at h
    · rename_i length
      have read := (Json.read_of_parse parsed).get? listing
      exact ⟨response, items, parsed, listing,
        tells_of_decodeItems (fun item hi => (read.item hi).listed) length h⟩
    · cases h

end BulkBody

namespace RestClient

/-- The wire answered the bulk request of these operations with a JSON object that lists these
items. -/
def Lists (client : RestClient) (index : String) (ops : List Operation) (w : Wire)
    (items : List Json) : Prop :=
  ∃ text status body response, BulkBody.encode client.generation index ops = .ok text ∧
    (w.send (client.bulkRequest text)).1 = .answered status (some body) ∧ isSuccess status = true ∧
    Json.parse body = .ok response ∧ response.get? "items" = some (.array items)

theorem lists_of_bulk {client : RestClient} {index : String} {ops : List Operation} {w w' : Wire}
    {results : List ItemResult} (h : client.bulk index ops w = (.items results, w')) :
    ∃ items, Lists client index ops w items ∧ List.Forall₂ BulkBody.Tells items results := by
  unfold bulk at h
  split at h
  · cases h
  · rename_i text encoded
    dsimp only at h
    split at h
    · cases h
    · cases h
    · rename_i status body _ sent
      obtain ⟨answer, -⟩ := Prod.mk.inj h
      unfold bulkAnswer at answer
      split at answer
      · rename_i success
        split at answer
        · rename_i read
          cases answer
          obtain ⟨response, items, parsed, listing, told⟩ := BulkBody.decoded read
          exact ⟨items, ⟨text, status, body, response, encoded, congrArg Prod.fst sent, success,
            parsed, listing⟩, told⟩
        · cases answer
      · cases answer

end RestClient

/-- Results that fit the operations of an attempt are taken as its results, and not as too few or
too many. -/
theorem Submission.receive_of_fits {s : Submission} {results : List ItemResult}
    (fits : (BulkAnswer.items results).Fits s.attempt) :
    s.receive? (.items results) = some (s.receiveItems results) := by
  have length : results.length = s.attempt.length := by
    simpa using congrArg List.length
      (show results.map ItemResult.target = s.attempt.map Operation.target from fits)
  exact if_pos length

/-- Results that fit operations do so place by place. -/
theorem BulkAnswer.Fits.each {ops : List Operation} {results : List ItemResult}
    (fits : (BulkAnswer.items results).Fits ops) :
    List.Forall₂ (fun op (r : ItemResult) => r.kind = op.kind ∧ r.id = op.id) ops results := by
  have targets : results.map ItemResult.target = ops.map Operation.target := fits
  induction ops generalizing results with
  | nil =>
    obtain rfl := List.map_eq_nil_iff.1 targets
    exact .nil
  | cons op ops ih =>
    cases results with
    | nil => cases targets
    | cons r results =>
      obtain ⟨first, others⟩ := List.cons.inj targets
      exact .cons (Prod.mk.inj first) (ih others others)

/-- **Every result stands in the place of its operation.** Where a bulk call to either cluster gives
results, there is one for each operation, in its place, of its kind and id; behind a REST interface
each is what the first member of the item in its place says. So the attempt that was sent takes them
as its results. -/
theorem Deployment.results_in_place {d d' : Deployment} {index : String} {ops : List Operation}
    {results : List ItemResult}
    (h : Deployment.cluster.finishBulk () index ops d = (.items results, d')) :
    List.Forall₂ (fun op (r : ItemResult) => r.kind = op.kind ∧ r.id = op.id) ops results ∧
    (∀ client wire, d = .rest client wire →
      ∃ items, client.Lists index ops wire items ∧ List.Forall₂ BulkBody.Tells items results) ∧
    ∀ s : Submission, s.attempt = ops →
      s.receive? (.items results) = some (s.receiveItems results) := by
  have fits : (BulkAnswer.items results).Fits ops := Deployment.aligned.fits h
  refine ⟨fits.each, ?_, ?_⟩
  · rintro client wire rfl
    obtain ⟨answer, -⟩ := Prod.mk.inj h
    exact RestClient.lists_of_bulk (Prod.ext answer rfl)
  · rintro s rfl
    exact Submission.receive_of_fits fits

/-- An answer with two members in an item, of which the one that comes first in the text does not
count, and with a status that is cut: the second operation was pushed back. -/
theorem Deployment.results_in_place_crossed :
    let client : RestClient :=
      ⟨{ scheme := "http", host := some "localhost".toList, path := ['/'] }, .typeless, none⟩
    let ops : List Operation := [⟨.index, "a", some "\x7b\x7d"⟩, ⟨.delete, "b", none⟩]
    let body := "\x7b\"items\":[\x7b\"update\":\x7b\"error\":\"no\"\x7d,\"index\":\x7b\"status\":201,\"error\":null\x7d\x7d," ++
      "\x7b\"delete\":\x7b\"status\":65965,\"error\":\"full\"\x7d\x7d]\x7d"
    let wire := Wire.up [.answer 200 body false] []
    let results : List ItemResult :=
      [⟨.index, "a", 201, none⟩, ⟨.delete, "b", ItemResult.tooManyRequests, some "full"⟩]
    (Deployment.cluster.finishBulk () "books1" ops (.rest client wire)).1 = .items results ∧
      List.Forall₂ (fun op (r : ItemResult) => r.kind = op.kind ∧ r.id = op.id) ops results ∧
      (∃ items, client.Lists "books1" ops wire items ∧ List.Forall₂ BulkBody.Tells items results) ∧
      (Submission.ofOperations ops {}).receive? (.items results) =
        some ((Submission.ofOperations ops {}).receiveItems results) := by
  intro client ops body wire results
  have answered : (Deployment.cluster.finishBulk () "books1" ops (.rest client wire)).1 =
    .items results := by
    decide +kernel
  have told (r : BulkAnswer × Deployment) (h : r.1 = .items results) : r = (.items results, r.2) :=
    Prod.ext h rfl
  obtain ⟨each, told, taken⟩ := results_in_place (told _ answered)
  exact ⟨answered, each, told client wire rfl, taken _ rfl⟩

end Reindex
