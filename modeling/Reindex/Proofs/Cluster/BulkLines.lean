import Mathlib.Data.List.Forall2
import Reindex.Calls
import Reindex.Cluster.Rest.BulkBody
import Reindex.Proofs.Json.Printed
import Reindex.Text.Pieces

/-!
# Bulk bodies read back

A bulk body is cut at its line feeds and read action by action: what an action says decides whether
a document follows on the next line. Names, ids and documents may hold any characters; what is read
are the operations that were written, in their order, each with its document. `BulkBody.readBody` is
that reader.

Main statement: `BulkBody.uniquely_decodable`.
-/

namespace Reindex

/-! ## Lines -/

namespace Text

theorem splitOn_line {sep : Char} {line : List Char} (unbroken : sep ∉ line) (rest : List Char) :
    splitOn sep (line ++ sep :: rest) = line :: splitOn sep rest := by
  induction line with
  | nil => simp [splitOn]
  | cons c line ih =>
    obtain ⟨head, unbroken⟩ := not_or.1 (List.mem_cons.not.1 unbroken)
    rw [List.cons_append, splitOn, if_neg (Ne.symm head), ih unbroken]

/-- Lines that each end in a line feed, cut at the line feeds. -/
theorem splitOn_lines {lines : List String} (unbroken : ∀ line ∈ lines, '\n' ∉ line.toList) :
    splitOn '\n' (String.join (lines.map (· ++ "\n"))).toList =
      lines.map String.toList ++ [[]] := by
  induction lines with
  | nil => rfl
  | cons line lines ih =>
    obtain ⟨first, others⟩ := List.forall_mem_cons.1 unbroken
    have shape : (String.join ((line :: lines).map (· ++ "\n"))).toList =
        line.toList ++ '\n' :: (String.join (lines.map (· ++ "\n"))).toList := by
      simp [String.join_cons]
    rw [shape, splitOn_line first, ih others]
    rfl

end Text

namespace BulkBody

/-! ## The reader -/

/-- What a line says is to be done to which document. -/
structure Action where
  kind : OpKind
  index : String
  mappingType : Option String
  id : String
deriving DecidableEq, Repr

/-- The action that a line says: an object with one member, named for the kind. -/
def Action.ofLine? (line : List Char) : Option Action :=
  match Json.parse (String.ofList line) with
  | .ok (.object [(name, target)]) => do
    let kind ← OpKind.ofName? name
    let index ← (target.get? "_index").bind (·.asString?)
    let id ← (target.get? "_id").bind (·.asString?)
    return ⟨kind, index, (target.get? "_type").bind (·.asString?), id⟩
  | _ => none

/-- An action with its document. -/
structure Request where
  action : Action
  document : Option String
deriving DecidableEq, Repr

/-- The requests that lines make. Nothing stands behind the last line feed; a deletion has no
document, any other action has the next line. -/
def readLines : List (List Char) → Option (List Request)
  | [] => none
  | [last] => if last = [] then some [] else none
  | line :: next :: lines =>
    match Action.ofLine? line with
    | none => none
    | some action =>
      if action.kind = .delete then (⟨action, none⟩ :: ·) <$> readLines (next :: lines)
      else (⟨action, some (String.ofList next)⟩ :: ·) <$> readLines lines

/-- The requests that a bulk body makes. -/
def readBody (text : String) : Option (List Request) := readLines (Text.splitOn '\n' text.toList)

/-! ## Action lines -/

theorem reads_actionMetadata (g : ApiGeneration) (index id : String) :
    Json.Reader.Reads 1 (g.actionMetadata index id) := by
  cases g with
  | typeless =>
    refine Json.Reader.reads_ofMembers (by simp [Json.Reader.quotedKey]) fun m hm => ?_
    simp only [List.mem_cons, List.not_mem_nil, or_false] at hm
    rcases hm with rfl | rfl
    · exact Json.Reader.reads_string index
    · exact Json.Reader.reads_string id
  | typed mappingType =>
    refine Json.Reader.reads_ofMembers (by simp [Json.Reader.quotedKey]) fun m hm => ?_
    simp only [List.mem_cons, List.not_mem_nil, or_false] at hm
    rcases hm with rfl | rfl | rfl
    · exact Json.Reader.reads_string index
    · exact Json.Reader.reads_string mappingType
    · exact Json.Reader.reads_string id

theorem parse_actionLine (g : ApiGeneration) (index : String) (op : Operation) :
    Json.parse (actionLine g index op) = .ok
      (.object [(op.kind.name, g.actionMetadata index op.id)]) := by
  have ordered : Entries.Ordered [(op.kind.name, g.actionMetadata index op.id)] :=
    List.pairwise_singleton _ _
  have bare : op.kind.name ≠ Json.Reader.quotedKey := by cases op.kind <;> decide
  exact Json.parse_text (Json.Reader.reads_object ordered bare (reads_actionMetadata g index op.id)
    (by simp)) (by decide)

/-- The mapping type of the documents, where they have one. -/
def mappingType? : ApiGeneration → Option String
  | .typeless => none
  | .typed mappingType => some mappingType

/-- **An action line says its action,** whatever the names and the id. -/
theorem ofLine?_actionLine (g : ApiGeneration) (index : String) (op : Operation) :
    Action.ofLine? (actionLine g index op).toList = some ⟨op.kind, index, mappingType? g,
      op.id⟩ := by
  unfold Action.ofLine?
  rw [String.ofList_toList, parse_actionLine]
  cases g <;>
    simp [OpKind.ofName?_name, ApiGeneration.actionMetadata, Json.ofMembers, Entries.ofList,
      Json.get?, Entries.get?_insert, Entries.get?, Json.asString?, mappingType?]

theorem newline_not_mem_actionLine (g : ApiGeneration) (index : String) (op : Operation) :
    '\n' ∉ (actionLine g index op).toList := Json.newline_not_mem_text _

/-! ## Documents -/

/-- What stands on the wire for a document: the document if it is one line, else the compact text of
what it says. It is one line in either case. -/
structure OnWire (body wire : String) : Prop where
  oneLine : '\n' ∉ wire.toList
  same : '\n' ∉ body.toList → wire = body
  compact : '\n' ∈ body.toList → ∃ j, Json.parse body = .ok j ∧ wire = j.text

/-- A document of several lines that is no JSON. -/
def Unreadable (body : String) : Prop := '\n' ∈ body.toList ∧ ∀ j, Json.parse body ≠ .ok j

theorem onWire_of_singleLine {body wire : String} (h : singleLine body = .ok wire) :
    OnWire body wire := by
  unfold singleLine at h
  split at h
  · rename_i several
    cases parsed : Json.parse body with
    | error e =>
      rw [parsed] at h
      cases h
    | ok j =>
      rw [parsed] at h
      cases h
      exact ⟨j.newline_not_mem_text, fun single => absurd several single, fun _ => ⟨j, parsed, rfl⟩⟩
  · rename_i single
    cases h
    exact ⟨single, fun _ => rfl, fun several => absurd several single⟩

theorem singleLine_fails {body : String} :
    (∃ fault, singleLine body = .error fault) ↔ Unreadable body := by
  unfold singleLine Unreadable
  split
  · rename_i several
    cases Json.parse body with
    | error e => exact ⟨fun _ => ⟨several, fun _ h => (by cases h)⟩, fun _ => ⟨_, rfl⟩⟩
    | ok j => exact ⟨fun ⟨_, h⟩ => (by cases h), fun ⟨_, refused⟩ => absurd rfl (refused j)⟩
  · rename_i single
    exact ⟨fun ⟨_, h⟩ => (by cases h), fun ⟨several, _⟩ => absurd several single⟩

/-! ## One operation -/

/-- An operation that cannot be sent: a document is missing, or it has several lines and is no
JSON. -/
def Unsendable (op : Operation) : Prop :=
  op.kind ≠ .delete ∧ (op.body = none ∨ ∃ body, op.body = some body ∧ Unreadable body)

/-- A request says what an operation is and brings its document. -/
structure Delivers (g : ApiGeneration) (index : String) (op : Operation) (r : Request) : Prop where
  action : r.action = ⟨op.kind, index, mappingType? g, op.id⟩
  document : match op.kind with
    | .delete => r.document = none
    | .index => ∃ body wire, op.body = some body ∧ OnWire body wire ∧ r.document = some wire
    | .update => ∃ body wire, op.body = some body ∧ OnWire body wire ∧
      r.document = some ("\x7b\"doc\":" ++ wire ++ "\x7d")

/-- The lines of one operation are one request, whatever comes behind them. -/
structure Framed (g : ApiGeneration) (index : String) (op : Operation) (lines : List String) :
    Prop where
  unbroken : ∀ line ∈ lines, '\n' ∉ line.toList
  request : ∃ r, Delivers g index op r ∧ ∀ {rest : List (List Char)} {rs : List Request},
    readLines rest = some rs →
    readLines (lines.map String.toList ++ rest) = some (r :: rs)

/-- Lines that are read have one at least, be it the empty one at the end. -/
theorem exists_cons_of_readLines {rest : List (List Char)} {rs : List Request}
    (h : readLines rest = some rs) :
    ∃ next lines, rest = next :: lines := by
  cases rest with
  | nil => cases h
  | cons next lines => exact ⟨next, lines, rfl⟩

theorem framed_delete (g : ApiGeneration) (index : String) {op : Operation}
    (hk : op.kind = .delete) :
    Framed g index op [actionLine g index op] := by
  refine ⟨by simpa using newline_not_mem_actionLine g index op, ⟨⟨op.kind, index, mappingType? g, op.id⟩, none⟩,
    ⟨rfl, by rw [hk]⟩, fun {rest rs} read => ?_⟩
  obtain ⟨next, lines, rfl⟩ := exists_cons_of_readLines read
  show readLines ((actionLine g index op).toList :: next :: lines) = _
  rw [readLines, ofLine?_actionLine]
  dsimp only
  rw [if_pos hk, read]
  rfl

theorem framed_document (g : ApiGeneration) (index : String) {op : Operation} {document : String}
    (hk : op.kind ≠ .delete) (unbroken : '\n' ∉ document.toList)
    (delivers : Delivers g index op ⟨⟨op.kind, index, mappingType? g, op.id⟩, some document⟩) :
    Framed g index op [actionLine g index op, document] := by
  refine ⟨by simpa using ⟨newline_not_mem_actionLine g index op, unbroken⟩, _, delivers, fun {rest rs} read => ?_⟩
  show readLines ((actionLine g index op).toList :: document.toList :: rest) = _
  rw [readLines, ofLine?_actionLine]
  dsimp only
  rw [if_neg hk, read, String.ofList_toList]
  rfl

/-- What is written for one operation is framed, if anything is. -/
theorem framed_of_encodeOne {g : ApiGeneration} {index : String} {op : Operation}
    {lines : List String} (h : encodeOne g index op = .ok lines) : Framed g index op lines := by
  obtain ⟨kind, id, body⟩ := op
  cases kind with
  | delete =>
    cases h
    exact framed_delete g index rfl
  | index =>
    cases body with
    | none => cases h
    | some body =>
      obtain ⟨wire, single, h⟩ := exceptBind_eq_ok h
      cases h
      have wired := onWire_of_singleLine single
      exact framed_document g index (by simp) wired.oneLine ⟨rfl, body, wire, rfl, wired, rfl⟩
  | update =>
    cases body with
    | none => cases h
    | some body =>
      obtain ⟨wire, single, h⟩ := exceptBind_eq_ok h
      cases h
      have wired := onWire_of_singleLine single
      have unbroken : '\n' ∉ ("\x7b\"doc\":" ++ wire ++ "\x7d").toList := by simp [wired.oneLine]
      exact framed_document g index (by simp) unbroken ⟨rfl, body, wire, rfl, wired, rfl⟩

theorem encodeOne_fails (g : ApiGeneration) (index : String) {op : Operation} :
    (∃ fault, encodeOne g index op = .error fault) ↔ Unsendable op := by
  have document {body : String} {f : String → List String} :
      (∃ fault, (do return f (← singleLine body) : Except EncodeFault (List String)) =
        .error fault) ↔ Unreadable body := by
    rw [← singleLine_fails]
    cases singleLine body with
    | error e => exact ⟨fun _ => ⟨e, rfl⟩, fun _ => ⟨e, rfl⟩⟩
    | ok wire => exact ⟨fun ⟨_, h⟩ => (by cases h), fun ⟨_, h⟩ => (by cases h)⟩
  obtain ⟨kind, id, body⟩ := op
  cases kind with
  | delete => exact ⟨fun ⟨_, h⟩ => (by cases h), fun ⟨other, _⟩ => absurd rfl other⟩
  | index =>
    cases body with
    | none => exact ⟨fun _ => ⟨by simp, .inl rfl⟩, fun _ => ⟨_, rfl⟩⟩
    | some body =>
      refine (document (f := fun wire => [_, wire])).trans ?_
      simp [Unsendable]
  | update =>
    cases body with
    | none => exact ⟨fun _ => ⟨by simp, .inl rfl⟩, fun _ => ⟨_, rfl⟩⟩
    | some body =>
      refine (document (f := fun wire => [_, "\x7b\"doc\":" ++ wire ++ "\x7d"])).trans ?_
      simp [Unsendable]

/-! ## All operations -/

theorem encodeLines_cons (g : ApiGeneration) (index : String) (op : Operation)
    (ops : List Operation) :
    encodeLines g index (op :: ops) = (do
      let lines ← encodeOne g index op
      let others ← encodeLines g index ops
      return lines ++ others : Except EncodeFault (List String)) := by
  unfold encodeLines
  rw [List.mapM_cons]
  cases encodeOne g index op with
  | error e => rfl
  | ok lines =>
    show List.flatten <$> (ops.mapM (encodeOne g index) >>= _) =
      (List.flatten <$> ops.mapM (encodeOne g index)) >>= _
    cases ops.mapM (encodeOne g index) with
    | error e => rfl
    | ok others => rfl

theorem encodeLines_fails (g : ApiGeneration) (index : String) {ops : List Operation} :
    (∃ fault, encodeLines g index ops = .error fault) ↔ ∃ op ∈ ops, Unsendable op := by
  induction ops with
  | nil => exact ⟨fun ⟨_, h⟩ => (by cases h), fun ⟨_, h, _⟩ => (by cases h)⟩
  | cons op ops ih =>
    rw [List.exists_mem_cons_iff, ← encodeOne_fails g index, ← ih, encodeLines_cons]
    cases encodeOne g index op with
    | error e => exact ⟨fun _ => .inl ⟨e, rfl⟩, fun _ => ⟨e, rfl⟩⟩
    | ok lines =>
      cases encodeLines g index ops with
      | error e => exact ⟨fun _ => .inr ⟨e, rfl⟩, fun _ => ⟨e, rfl⟩⟩
      | ok others =>
        exact ⟨fun ⟨_, h⟩ => (by cases h), fun h => h.elim (fun ⟨_, h⟩ => by cases h) fun ⟨_, h⟩ =>
          by cases h⟩

/-- The lines of all operations, with the empty one at the end, are their requests. -/
theorem requests_of_encodeLines {g : ApiGeneration} {index : String} {ops : List Operation}
    {lines : List String} (h : encodeLines g index ops = .ok lines) :
    (∀ line ∈ lines, '\n' ∉ line.toList) ∧ ∃ requests,
      readLines (lines.map String.toList ++ [[]]) = some requests ∧
      List.Forall₂ (Delivers g index) ops requests := by
  induction ops generalizing lines with
  | nil =>
    cases h
    exact ⟨fun _ h => (by cases h), [], rfl, .nil⟩
  | cons op ops ih =>
    rw [encodeLines_cons] at h
    obtain ⟨first, one, h⟩ := exceptBind_eq_ok h
    obtain ⟨others, rest, h⟩ := exceptBind_eq_ok h
    cases h
    obtain ⟨unbroken, r, delivers, reads⟩ := framed_of_encodeOne one
    obtain ⟨unbroken', requests, read, delivered⟩ := ih rest
    refine ⟨fun line hl => (List.mem_append.1 hl).elim (unbroken line) (unbroken' line),
      r :: requests, ?_, .cons delivers delivered⟩
    rw [List.map_append, List.append_assoc]
    exact reads read

/-- **A bulk body is uniquely decodable.** It cannot be written if and only if one of its operations
cannot be sent. What is written is read, line by line, as the operations that it was written for, in
their order. -/
theorem uniquely_decodable (g : ApiGeneration) (index : String) (ops : List Operation) :
    ((∃ fault, encode g index ops = .error fault) ↔ ∃ op ∈ ops, Unsendable op) ∧
    ∀ text, encode g index ops = .ok text →
      ∃ requests, readBody text = some requests ∧ List.Forall₂ (Delivers g index) ops requests := by
  rw [← encodeLines_fails g index]
  unfold encode
  cases written : encodeLines g index ops with
  | error e => exact ⟨⟨fun _ => ⟨e, rfl⟩, fun _ => ⟨e, rfl⟩⟩, fun _ h => (by cases h)⟩
  | ok lines =>
    refine ⟨⟨fun ⟨_, h⟩ => (by cases h), fun ⟨_, h⟩ => (by cases h)⟩, fun text h => ?_⟩
    cases h
    obtain ⟨unbroken, requests, read, delivered⟩ := requests_of_encodeLines written
    refine ⟨requests, ?_, delivered⟩
    unfold readBody
    rw [Text.splitOn_lines unbroken]
    exact read

/-- Names, ids and documents that look like lines of their own: each stays inside its line. -/
theorem uniquely_decodable_awkward :
    let g : ApiGeneration := .typed "\t"
    let ops : List Operation :=
      [⟨.index, "a\n\x7b\"delete\":\x7b\x7d\x7d", some "\x7b\n  \"t\": 1\n\x7d"⟩,
        ⟨.delete, "\"", some "x"⟩,
      ⟨.update, "", some "no JSON"⟩]
    ∃ text requests, encode g "books\n1" ops = .ok text ∧ readBody text = some requests ∧
      List.Forall₂ (Delivers g "books\n1") ops requests ∧
      requests.map (·.document) = [some "\x7b\"t\":1\x7d", none,
        some "\x7b\"doc\":no JSON\x7d"] := by
  intro g ops
  have documents : ((encode g "books\n1" ops).toOption.bind readBody).map (·.map (·.document)) =
      some [some "\x7b\"t\":1\x7d", none, some "\x7b\"doc\":no JSON\x7d"] := by decide +kernel
  cases written : encode g "books\n1" ops with
  | error e =>
    rw [written] at documents
    cases documents
  | ok text =>
    obtain ⟨requests, read, delivered⟩ := (uniquely_decodable g "books\n1" ops).2 text written
    rw [written, show (Except.ok text : Except EncodeFault String).toOption.bind readBody =
      _ from read] at documents
    exact ⟨text, requests, rfl, read, delivered, Option.some.inj documents⟩

end BulkBody

end Reindex
