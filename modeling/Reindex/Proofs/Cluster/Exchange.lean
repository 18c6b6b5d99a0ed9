import Reindex.Calls
import Reindex.Proofs.Cluster.AliasBody

/-!
# Requests and what their answers say

A call to a cluster behind a REST interface is one request, and what it gives depends on the answer
only. A request that is answered was one that could be sent, to an end that listens; there it is the
last of those that came.

Main statements: `Wire.Answers.received`, and for the calls `RestClient.indexExists_of_answers`,
`RestClient.aliases_of_decodes`, `RestClient.stateAfter_expectSuccess` and
`RestClient.expectSuccess_of_accepted`.
-/

namespace Reindex

namespace Wire

variable {w u : Wire} {r : Request} {status : Nat}

/-- The requests that came to the other end, in order. -/
def received : Wire → List Request
  | .down => []
  | .up _ received => received

/-- Somebody listens at the other end. -/
def Listens (w : Wire) : Prop := ∃ replies received, w = .up replies received

/-- The request is answered with this status. -/
def Answers (w : Wire) (r : Request) (status : Nat) (u : Wire) : Prop :=
  ∃ body, w.send r = (.answered status body, u)

theorem send_of_sendable (sendable : r.unsendable? = none) (listens : w.Listens) :
    (w.send r).2.Listens ∧ (w.send r).2.received = w.received ++ [r] := by
  obtain ⟨replies, came, rfl⟩ := listens
  unfold send
  rw [sendable]
  rcases replies with _ | ⟨_ | _, replies⟩ <;> exact ⟨⟨_, _, rfl⟩, rfl⟩

theorem Answers.sendable (h : w.Answers r status u) : r.unsendable? = none ∧ w.Listens := by
  obtain ⟨body, sent⟩ := h
  unfold send at sent
  split at sent
  · cases sent
  · rename_i sendable
    refine ⟨sendable, ?_⟩
    cases w with
    | down => cases sent
    | up replies came => exact ⟨replies, came, rfl⟩

/-- **A request that is answered came** to the other end, behind those that had come. -/
theorem Answers.received (h : w.Answers r status u) :
    u.Listens ∧ u.received = w.received ++ [r] := by
  obtain ⟨sendable, listens⟩ := h.sendable
  obtain ⟨body, sent⟩ := h
  have came := send_of_sendable sendable listens
  rwa [sent] at came

end Wire

namespace RestClient

variable {c : RestClient} {w u : Wire} {r : Request} {status : Nat}

/-- The JSON value of an answer to a look-up. If nothing is there, that is null. -/
def lookedUp? (status : Nat) (body : Option String) : Option Json :=
  if status = 404 then some .null
  else if isSuccess status then body.bind fun text => (Json.parse text).toOption
  else none

/-- The request is a look-up that is answered, and the answer is decoded to this JSON value. -/
def Decodes (w : Wire) (r : Request) (j : Json) (u : Wire) : Prop :=
  ∃ status body, w.send r = (.answered status body, u) ∧ lookedUp? status body = some j

theorem Decodes.answers {j : Json} (h : Decodes w r j u) : ∃ status, w.Answers r status u := by
  obtain ⟨status, body, sent, -⟩ := h
  exact ⟨status, body, sent⟩

theorem Decodes.read {j : Json} (h : Decodes w r j u) : j.Read := by
  obtain ⟨status, body, -, decoded⟩ := h
  unfold lookedUp? at decoded
  split at decoded
  · cases decoded
    exact Json.read_of_parse (show Json.parse "null" = _ from eq_ok_of_toOption (by decide +kernel))
  · split at decoded
    · obtain ⟨text, -, parsed⟩ := Option.bind_eq_some_iff.1 decoded
      exact Json.read_of_parse (eq_ok_of_toOption parsed)
    · cases decoded

/-! ## Requests as they are written -/

/-- A look-up: who asks is all that it carries besides its path. -/
def lookUpRequest (c : RestClient) (method : String) (path : List String) : Request where
  method := method
  url := c.base.extend path
  authorization := c.authorization
  contentType := none
  body := ""

/-- The request with actions on aliases, in their order. -/
def actionsRequest (c : RestClient) (actions : List Json) : Request where
  method := "POST"
  url := c.base.extend ["_aliases"]
  authorization := c.authorization
  contentType := some "application/json"
  body := (Json.object [("actions", .array actions)]).text

/-- An update of aliases is this request and no other. -/
theorem updateAliases_eq_expectSuccess (c : RestClient) (actions : List AliasAction) :
    c.updateAliases actions = expectSuccess (c.actionsRequest (actions.map actionJson))
      .applyAliasActions := rfl

/-! ## The calls -/

theorem modifyGet_of_send {delivery : Delivery} (h : w.send r = (delivery, u)) :
    (modifyGet (Wire.send r) : EStateM Failure Wire Delivery) w = .ok delivery u := by
  show EStateM.Result.ok (w.send r).1 (w.send r).2 = _
  rw [h]

theorem exchange_of_answered {body : Option String} (h : w.send r = (.answered status body, u))
    (errand : Errand) :
    exchange r errand w = .ok (status, body) u := by
  unfold exchange
  rw [bind_of_ok (modifyGet_of_send h)]
  rfl

theorem exchange_of_lost {reason : String} (h : w.send r = (.lost reason, u)) (errand : Errand) :
    exchange r errand w = .error (.neverSent errand) u := by
  unfold exchange
  rw [bind_of_ok (modifyGet_of_send h)]
  rfl

theorem indexExists_of_answers {index : String}
    (h : w.Answers (c.lookUpRequest "HEAD" [index]) status u) :
    c.indexExists index w =
      if isSuccess status then .ok true u
      else if status = 404 then .ok false u
      else .error (.existenceUnclear index status) u := by
  obtain ⟨body, sent⟩ := h
  have sent : w.send (c.bare "HEAD" [index]) = (.answered status body, u) := sent
  unfold indexExists
  rw [bind_of_ok (exchange_of_answered sent .checkIndex)]
  dsimp only
  split
  · rfl
  · split <;> rfl

/-- The path of a look-up. -/
def lookupPath : AliasLookup → List String
  | .ofAlias aliasName => ["_alias", aliasName]
  | .ofIndex index => [index, "_alias"]

/-- A look-up gives the text of what is found. -/
theorem expectFound_of_decodes {j : Json} (h : Decodes w r j u) (errand : Errand) :
    ∃ found, expectFound r errand w = .ok found u ∧
      match found with
      | none => j = .null
      | some text => Json.parse text = .ok j := by
  obtain ⟨status, body, sent, decoded⟩ := h
  unfold expectFound
  rw [bind_of_ok (exchange_of_answered sent errand)]
  dsimp only
  unfold lookedUp? at decoded
  split at decoded
  · rename_i missing
    rw [if_pos missing]
    exact ⟨none, rfl, (Option.some.inj decoded).symm⟩
  · rename_i present
    split at decoded
    · rename_i success
      obtain ⟨text, rfl, parsed⟩ := Option.bind_eq_some_iff.1 decoded
      have whole : expectBody errand (status, some text) u = .ok text u := by
        unfold expectBody
        dsimp only
        rw [if_pos success]
        rfl
      rw [if_neg present, bind_of_ok whole]
      exact ⟨some text, rfl, eq_ok_of_toOption parsed⟩
    · cases decoded

/-- What follows a look-up works out if it does for every text of the value. -/
theorem bind_expectFound {α : Type} {f : Option String → EStateM Failure Wire α} {a : α} {j : Json}
    (h : Decodes w r j u) (errand : Errand) (nothing : j = .null → f none u = .ok a u)
    (something : ∀ text, Json.parse text = .ok j → f (some text) u = .ok a u) :
    (expectFound r errand >>= f) w = .ok a u := by
  obtain ⟨_ | text, answered, same⟩ := expectFound_of_decodes h errand
  · rw [bind_of_ok answered]
    exact nothing same
  · rw [bind_of_ok answered]
    exact something text same

/-- A look-up of aliases gives the table that its answer has. -/
theorem aliases_of_decodes (lookup : AliasLookup) {j : Json}
    (h : Decodes w (c.lookUpRequest "GET" (lookupPath lookup)) j u) :
    c.aliases lookup w = .ok (AliasTable.ofJson j) u := by
  cases lookup <;>
  · refine bind_expectFound h _ (fun null => ?_) fun text parsed => ?_
    · rw [null]
      rfl
    · dsimp only
      rw [parsed]
      rfl

/-- A request that has to succeed is sent once, whatever is answered. -/
theorem stateAfter_expectSuccess (r : Request) (errand : Errand) (w : Wire) :
    stateAfter (expectSuccess r errand w) = (w.send r).2 := by
  cases sent : w.send r with
  | mk delivery v =>
    cases delivery with
    | lost reason =>
      have lost : exchange r errand w = .error (.neverSent errand) v := exchange_of_lost sent errand
      unfold expectSuccess
      rw [bind_of_error lost]
      rfl
    | answered status body =>
      unfold expectSuccess
      rw [bind_of_ok (exchange_of_answered sent errand)]
      cases body with
      | none => rfl
      | some body =>
        unfold expectBody
        dsimp only
        split <;> rfl

theorem expectSuccess_of_accepted {body : String} (h : w.send r = (.answered status (some body), u))
    (success : isSuccess status = true) (errand : Errand) :
    expectSuccess r errand w = .ok () u := by
  unfold expectSuccess
  rw [bind_of_ok (exchange_of_answered h errand)]
  unfold expectBody
  dsimp only
  rw [if_pos success]
  rfl

end RestClient

end Reindex
