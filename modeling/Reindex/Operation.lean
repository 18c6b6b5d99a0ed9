/-!
# Operations on documents

What a run sends to a cluster, one operation per document, and what the cluster answers to each.
-/

namespace Reindex

inductive OpKind where
  /-- Store the whole document. -/
  | index
  /-- Merge members into the stored document. -/
  | update
  | delete
deriving DecidableEq, Repr, Inhabited

def OpKind.name : OpKind → String
  | .index => "index"
  | .update => "update"
  | .delete => "delete"

/-- The kind with a name. -/
def OpKind.ofName? : String → Option OpKind
  | "index" => some .index
  | "update" => some .update
  | "delete" => some .delete
  | _ => none

theorem OpKind.ofName?_name (k : OpKind) : OpKind.ofName? k.name = some k := by cases k <;> rfl

/-- One operation; `body` is the text of a document or of the members to merge (`BulkOperation`). -/
structure Operation where
  kind : OpKind
  id : String
  body : Option String
deriving DecidableEq, Repr

/-- Bytes that an operation takes on the wire besides its id and its body. -/
def Operation.overhead : Nat := 50

/-- How large an operation counts for the size limit of a batch. -/
def Operation.estimatedBytes (op : Operation) : Nat :=
  op.id.utf8ByteSize + (op.body.map String.utf8ByteSize).getD 0 + Operation.overhead

/-- The answer to one operation (`BulkItemResult`). -/
structure ItemResult where
  kind : OpKind
  id : String
  status : Nat
  error : Option String
deriving DecidableEq, Repr

namespace ItemResult

/-- The operation was carried out (`BulkItemResult.ok`). -/
def done (op : Operation) (status : Nat) : ItemResult := ⟨op.kind, op.id, status, none⟩

/-- The operation was refused (`BulkItemResult.failed`). -/
def refused (op : Operation) (status : Nat) (error : String) : ItemResult :=
  ⟨op.kind, op.id, status, some error⟩

/-- The status of a cluster that is asked for too much at once. -/
def tooManyRequests : Nat := 429

/-- The operation was pushed back and may be sent again. -/
def isRejected (r : ItemResult) : Bool := r.status == tooManyRequests

end ItemResult

end Reindex
