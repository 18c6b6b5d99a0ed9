import Reindex.Cluster.Basic
import Reindex.Cluster.Rest.Generation
import Reindex.Json.Reader
import Reindex.Json.Writer

/-!
# Bulk bodies and their answers

A bulk body has one line for each action and, for an operation that brings a document, one line
behind it. A document of several lines is put on one. The answer lists one item for each operation.
-/

namespace Reindex

/-- Why operations cannot be sent. -/
inductive EncodeFault where
  /-- A document of several lines is no JSON, so that it cannot be put on one. -/
  | unreadable (error : Json.Reader.ParseError)
  | missingBody (kind : OpKind) (id : String)
deriving DecidableEq, Repr

def EncodeFault.message : EncodeFault → String
  | .unreadable error =>
    "💀 document body spans multiple lines and is not valid JSON; it cannot ride in a bulk request: " ++ error.message
  | .missingBody kind id => "💀 a '" ++ kind.name ++ "' operation for id '" ++ id ++
      "' arrived without a body"

namespace BulkBody

/-- A document on one line. -/
def singleLine (body : String) : Except EncodeFault String :=
  if '\n' ∈ body.toList then (Json.parse body).map Json.text |>.mapError .unreadable else .ok body

/-- The line that says what is to be done to which document. -/
def actionLine (g : ApiGeneration) (index : String) (op : Operation) : String :=
  (Json.object [(op.kind.name, g.actionMetadata index op.id)]).text

/-- The lines of one operation. -/
def encodeOne (g : ApiGeneration) (index : String) (op : Operation) :
    Except EncodeFault (List String) :=
  match op.kind, op.body with
  | .delete, _ => .ok [actionLine g index op]
  | .index, some body => do return [actionLine g index op, ← singleLine body]
  | .update, some body =>
    do return [actionLine g index op, "\x7b\"doc\":" ++ (← singleLine body) ++ "\x7d"]
  | kind, none => .error (.missingBody kind op.id)

/-- The lines of several operations; the first fault counts. -/
def encodeLines (g : ApiGeneration) (index : String) (ops : List Operation) :
    Except EncodeFault (List String) :=
  List.flatten <$> ops.mapM (encodeOne g index)

/-- The body of a bulk call (`encode_bulk_body`). Each line, the last one too, ends in a line
feed. -/
def encode (g : ApiGeneration) (index : String) (ops : List Operation) :
    Except EncodeFault String :=
  (encodeLines g index ops).map fun lines => String.join (lines.map (· ++ "\n"))

/-- What an item says went wrong (`describe_item_error`). -/
def describeError (error : Json) : String :=
  match error with
  | .string message => message
  | .object _ =>
    ((error.get? "type").bind (·.asString?)).getD "error" ++ ": " ++
      ((error.get? "reason").bind (·.asString?)).getD "no reason given"
  | other => other.text

/-- The result of an operation from the first member of its item. -/
def decodeItem (op : Operation) (item : Json) : Except BulkFailure ItemResult :=
  match item with
  | .object ((_, details) :: _) =>
    let status := ((details.get? "status").bind (·.asNat?)).getD 0 % 65536
    match details.get? "error" with
    | none | some .null => .ok (.done op status)
    | some error => .ok (.refused op status (describeError error))
  | _ => .error (.lasting ("malformed bulk item for id '" ++ op.id ++ "'"))

/-- The results of all operations. -/
def decodeItems : List Operation → List Json → Except BulkFailure (List ItemResult)
  | op :: ops, item :: items => do
    let result ← decodeItem op item
    let results ← decodeItems ops items
    return result :: results
  | _, _ => .ok []

/-- The results in the answer to a bulk call (`decode_bulk_response`). -/
def decode (ops : List Operation) (body : String) : Except BulkFailure (List ItemResult) := do
  let answer ← (Json.parse body).mapError fun e =>
    BulkFailure.lasting ("bulk response is not JSON: " ++ e.message)
  match (answer.get? "items").bind (·.asArray?) with
  | none => .error (.lasting "bulk response has no 'items' array")
  | some items =>
    if items.length = ops.length then decodeItems ops items
    else
      .error <| .lasting
        ("bulk response has " ++ toString items.length ++ " items for " ++ toString ops.length ++
          " operations")

theorem decodeItem_aligned {op : Operation} {item : Json} {r : ItemResult}
    (h : decodeItem op item = .ok r) :
    r.kind = op.kind ∧ r.id = op.id := by
  simp only [decodeItem] at h
  split at h
  · split at h <;> simp only [Except.ok.injEq] at h <;> subst h <;> exact ⟨rfl, rfl⟩
  · simp at h

end BulkBody

/-- The alias table in the answer to an alias look-up (`decode_aliases`). Members that are no such
entries are left out. -/
def AliasTable.ofJson (j : Json) : AliasTable :=
  .ofList <| (j.asObject?.getD []).filterMap fun (index, entry) =>
    ((entry.get? "aliases").bind (·.asObject?)).map fun aliases =>
      (index, Dict.ofList (aliases.map fun (name, definition) => (name, definition.get? "filter")))

end Reindex
