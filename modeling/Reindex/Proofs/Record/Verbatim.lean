import Reindex.Proofs.Cluster.BulkLines
import Reindex.Proofs.Record.Document
import Reindex.Proofs.Run.Feed

/-!
# Documents go from a record file to the wire as they are

A line of a record file has no line feed in it, so a document has none either: it is written as the
text it has in its line, and nothing has to be put on one line. What a feed adds for the records of
a file can therefore always be written, in any batch.

Main statement: `RecordSource.documents_verbatim`.
-/

namespace Reindex

/-! ## Lines of a file -/

theorem newline_not_mem_of_mem_splitLines {bytes line : List UInt8} (h : line ∈ splitLines bytes) :
    0x0A ∉ line := by
  induction bytes generalizing line with
  | nil => cases h
  | cons b bytes ih =>
    rw [splitLines] at h
    split at h
    · rcases List.mem_cons.1 h with rfl | h
      · exact List.not_mem_nil
      · exact ih h
    · rename_i other
      split at h
      · rename_i first lines split
        rcases List.mem_cons.1 h with rfl | h
        · exact List.not_mem_cons_of_ne_of_not_mem (Ne.symm other) (ih (split ▸ List.mem_cons_self))
        · exact ih (split ▸ List.mem_cons_of_mem _ h)
      · rw [List.mem_singleton.1 h]
        exact fun h => other (List.mem_singleton.1 h).symm

/-- A text has the bytes that it was read from. -/
theorem encoded_of_fromUTF8? {bytes : List UInt8} {text : String}
    (decoded : String.fromUTF8? ⟨bytes.toArray⟩ = some text) :
    text.toList.flatMap String.utf8EncodeChar = bytes := by
  have same : text.toByteArray = ⟨bytes.toArray⟩ := by
    unfold String.fromUTF8? at decoded
    split at decoded <;> cases decoded
    rfl
  calc text.toList.flatMap String.utf8EncodeChar
      = text.toList.utf8Encode.data.toList := List.toList_data_toByteArray.symm
    _ = text.toByteArray.data.toList := by rw [String.utf8Encode_toList]
    _ = bytes := by rw [same]

/-- A line feed in a text is a byte of it. -/
theorem newline_not_mem_of_fromUTF8? {bytes : List UInt8} {text : String}
    (decoded : String.fromUTF8? ⟨bytes.toArray⟩ = some text) (h : 0x0A ∉ bytes) :
    '\n' ∉ text.toList := fun newline =>
  h (encoded_of_fromUTF8? decoded ▸ List.mem_flatMap.2 ⟨'\n', newline, by decide⟩)

theorem Text.trim_infix (cs : List Char) : Text.trim cs <:+: cs := by
  have front : Text.trimEnd (cs.dropWhile Text.isBlank) <+: cs.dropWhile Text.isBlank := by
    unfold Text.trimEnd
    rw [← List.reverse_suffix, List.reverse_reverse]
    exact List.dropWhile_suffix _
  exact front.isInfix.trans (List.dropWhile_suffix _).isInfix

namespace RecordSource

theorem unbroken_of_ofFile? {path : String} {entry : FileEntry} {source : RecordSource}
    (opened : ofFile? path entry = some source) {line : String} (h : some line ∈ source.lines) :
    '\n' ∉ line.toList := by
  unfold ofFile? at opened
  split at opened
  · cases opened
  · cases opened
  · cases opened
    simp at h
  · cases opened
    obtain ⟨bytes, piece, decoded⟩ := List.mem_map.1 h
    exact newline_not_mem_of_fromUTF8? decoded (newline_not_mem_of_mem_splitLines piece)

/-! ## The records of a file -/

/-- What so many calls of `next` answer, and the source behind them. -/
def nexts : Nat → RecordSource → List (Except RecordFault (Option Record)) × RecordSource
  | 0, s => ([], s)
  | n + 1, s =>
    let r := s.next
    let more := nexts n r.2
    (r.1 :: more.1, more.2)

/-- The records in some answers. -/
def records (answers : List (Except RecordFault (Option Record))) : List Record :=
  answers.filterMap fun
    | .ok record => record
    | .error _ => none

/-- A line writes a record. -/
def Writes (line : String) (r : Record) : Prop :=
  Record.parse (String.ofList (Text.trim line.toList)) = .ok r

theorem writes_of_readLine {line : Option String} {r : Record} (h : readLine line = .ok (some r)) :
    ∃ text, line = some text ∧ Writes text r := by
  cases line with
  | none => cases h
  | some text =>
    unfold readLine at h
    dsimp only at h
    split at h
    · cases h
    · split at h
      · rename_i record parsed
        cases h
        exact ⟨text, rfl, parsed⟩
      · cases h

/-- Lines left behind stand at the end; a record is written by a line before them. -/
theorem line_of_read (path : String) (lines : List (Option String)) (n : Nat) :
    (read path lines n).2.1 <:+ lines ∧
    ∀ r, (read path lines n).1 = .ok (some r) → ∃ line, Writes line r ∧
      some line :: (read path lines n).2.1 <:+ lines := by
  induction lines generalizing n with
  | nil => exact ⟨List.suffix_refl _, fun _ h => by cases h⟩
  | cons line lines ih =>
    rw [read_cons]
    match answer : readLine line with
    | .ok none =>
      obtain ⟨left, written⟩ := ih (n + 1)
      refine ⟨left.trans (List.suffix_cons _ _), fun r h => ?_⟩
      obtain ⟨text, writes, behind⟩ := written r h
      exact ⟨text, writes, behind.trans (List.suffix_cons _ _)⟩
    | .ok (some record) =>
      refine ⟨List.suffix_cons _ _, fun r h => ?_⟩
      cases h
      obtain ⟨text, rfl, writes⟩ := writes_of_readLine answer
      exact ⟨text, writes, List.suffix_refl _⟩
    | .error reason => exact ⟨List.suffix_cons _ _, fun _ h => by cases h⟩

/-- The records of a source are written by lines of its file, each by its own and in their order. -/
theorem lines_of_nexts (calls : Nat) (s : RecordSource) :
    ∃ pairs : List (String × Record), pairs.map (·.2) = records (s.nexts calls).1 ∧
      (∀ p ∈ pairs, Writes p.1 p.2) ∧
      (pairs.map (some ·.1)).Sublist s.lines := by
  induction calls generalizing s with
  | zero => exact ⟨[], rfl, fun p h => absurd h List.not_mem_nil, List.nil_sublist _⟩
  | succ calls ih =>
    obtain ⟨pairs, same, writes, lines⟩ := ih s.next.2
    obtain ⟨left, written⟩ := line_of_read s.path s.lines s.line
    have answers : (s.nexts (calls + 1)).1 = s.next.1 :: (s.next.2.nexts calls).1 := rfl
    match answer : s.next.1 with
    | .error _ | .ok none =>
      rw [answers, answer]
      exact ⟨pairs, same, writes, lines.trans left.sublist⟩
    | .ok (some r) =>
      obtain ⟨line, writer, behind⟩ := written r answer
      rw [answers, answer]
      exact ⟨(line, r) :: pairs, congrArg (r :: ·) same, List.forall_mem_cons.2 ⟨writer, writes⟩,
        (lines.cons_cons (some line)).trans behind.sublist⟩

/-! ## What a feed adds -/

section Feed

variable {σ τ : Type} (cluster : Cluster σ τ)

theorem adaptExcept_bind {ε ε' ρ α β : Type} (x : EStateM ε ρ α) (k : α → EStateM ε ρ β)
    (f : ε → ε') :
    (x >>= k).adaptExcept f = x.adaptExcept f >>= fun a => (k a).adaptExcept f := by
  funext s
  simp only [bind, EStateM.bind, EStateM.adaptExcept]
  cases x s <;> rfl

/-- What a feed does next is decided by the next record. -/
theorem feedLines_next (s : RecordSource) :
    feedLines cluster s.path s.lines s.line =
      match s.next with
      | (.ok none, _) => return ()
      | (.ok (some r), rest) => do
        (Session.add cluster r.operation).adaptExcept .index
        feedLines cluster s.path rest.lines rest.line
      | (.error fault, _) => throw (.record fault) := by
  obtain ⟨path, lines, n⟩ := s
  unfold next
  dsimp only
  induction lines generalizing n with
  | nil => rfl
  | cons line lines ih =>
    rw [feedLines_cons, read_cons]
    match readLine line with
    | .ok none => exact ih (n + 1)
    | .ok (some record) => rfl
    | .error reason => rfl

theorem path_nexts (calls : Nat) (s : RecordSource) : (s.nexts calls).2.path = s.path := by
  induction calls generalizing s with
  | zero => rfl
  | succ calls ih => exact ih s.next.2

/-- **A feed adds what is read, in order,** and goes on with what is left. -/
theorem feedLines_nexts {calls : Nat} {s : RecordSource} {rs : List Record}
    (h : (s.nexts calls).1 = rs.map fun r => .ok (some r)) :
    feedLines cluster s.path s.lines s.line = (do
      (Session.performAll cluster (rs.map fun r => .add r.operation)).adaptExcept .index
      feedLines cluster s.path (s.nexts calls).2.lines (s.nexts calls).2.line) := by
  induction calls generalizing s rs with
  | zero =>
    obtain rfl := List.map_eq_nil_iff.1 h.symm
    rfl
  | succ calls ih =>
    cases rs with
    | nil => cases h
    | cons r rs =>
      obtain ⟨first, others⟩ := List.cons.inj h
      have answer : s.next = (.ok (some r), s.next.2) := Prod.ext first rfl
      rw [feedLines_next, answer, List.map_cons, Session.performAll, adaptExcept_bind, bind_assoc]
      exact bind_congr fun _ => ih others

end Feed

/-! ## What is written -/

open BulkBody (actionLine encodeOne encodeLines encode)

/-- The document of a line, with the blanks around the line left out. -/
def HasDocument (line doc : String) : Prop := Record.DocumentText (Text.trim line.toList) doc.toList

/-- A record between the line of the file that writes it and the lines of a bulk body. -/
structure Passage where
  line : String
  record : Record
  body : List String

/-- The document is carried as it is: behind the action of the record stands the document of its
line, behind an update as the member `doc`, behind a deletion nothing. -/
structure Passage.Verbatim (g : ApiGeneration) (index : String) (p : Passage) : Prop where
  writes : Writes p.line p.record
  body : match p.record.op with
    | .delete => p.body = [actionLine g index p.record.operation]
    | .index => ∃ doc, HasDocument p.line doc ∧ (∀ other, HasDocument p.line other → other = doc) ∧
        p.body = [actionLine g index p.record.operation, doc]
    | .update => ∃ doc, HasDocument p.line doc ∧ (∀ other, HasDocument p.line other → other = doc) ∧
        p.body = [actionLine g index p.record.operation, "\x7b\"doc\":" ++ doc ++ "\x7d"]

/-- A record of an unbroken line is written as it is, on lines of its own. -/
theorem exists_passage (g : ApiGeneration) (index : String) {line : String} {r : Record}
    (writes : Writes line r) (unbroken : '\n' ∉ line.toList) :
    ∃ body, encodeOne g index r.operation = .ok body ∧ (∀ l ∈ body, '\n' ∉ l.toList) ∧
      Passage.Verbatim g index ⟨line, r, body⟩ := by
  obtain ⟨-, documents⟩ := Record.document_of_parse writes
  rw [String.toList_ofList] at documents
  obtain ⟨op, id, doc⟩ := r
  have action := BulkBody.newline_not_mem_actionLine g index (Record.operation ⟨op, id, doc⟩)
  have document (other : op ≠ .delete) :
      ∃ d, doc = some d ∧ BulkBody.singleLine d = .ok d ∧ '\n' ∉ d.toList ∧ HasDocument line d ∧
        ∀ text, HasDocument line text → text = d := by
    obtain ⟨d, has, held, only⟩ := documents other
    have single : '\n' ∉ d.toList :=
      fun h => unbroken ((held.text_infix.trans (Text.trim_infix _)).subset h)
    exact ⟨d, has, if_neg single, single, held, fun text h => String.toList_inj.1 (only _ h)⟩
  cases op with
  | delete => exact ⟨[_], rfl, by simpa using action, writes, rfl⟩
  | index =>
    obtain ⟨d, rfl, written, single, held, only⟩ := document (by simp)
    refine ⟨[_, d], ?_, by simpa using ⟨action, single⟩, writes, d, held, only, rfl⟩
    simp only [encodeOne, Record.operation, written]
    rfl
  | update =>
    obtain ⟨d, rfl, written, single, held, only⟩ := document (by simp)
    refine ⟨[_, "\x7b\"doc\":" ++ d ++ "\x7d"], ?_,
      by simpa using ⟨action, single⟩, writes, d, held, only, rfl⟩
    simp only [encodeOne, Record.operation, written]
    rfl

theorem exists_passages (g : ApiGeneration) (index : String) {pairs : List (String × Record)}
    (writes : ∀ p ∈ pairs, Writes p.1 p.2) (unbroken : ∀ p ∈ pairs, '\n' ∉ p.1.toList) :
    ∃ passages : List Passage, passages.map (fun p => (p.line, p.record)) = pairs ∧
      (∀ p ∈ passages, p.Verbatim g index) ∧
      encodeLines g index (pairs.map (·.2.operation)) = .ok (passages.flatMap (·.body)) ∧
      ∀ l ∈ passages.flatMap (·.body), '\n' ∉ l.toList := by
  induction pairs with
  | nil => exact ⟨[], rfl, fun p h => absurd h List.not_mem_nil, rfl, fun p h =>
    absurd h List.not_mem_nil⟩
  | cons pair pairs ih =>
    obtain ⟨first, writes⟩ := List.forall_mem_cons.1 writes
    obtain ⟨whole, unbroken⟩ := List.forall_mem_cons.1 unbroken
    obtain ⟨body, one, lines, verbatim⟩ := exists_passage g index first whole
    obtain ⟨passages, same, verbatims, others, rest⟩ := ih writes unbroken
    refine ⟨⟨pair.1, pair.2, body⟩ :: passages, congrArg (pair :: ·) same,
      List.forall_mem_cons.2 ⟨verbatim, verbatims⟩, ?_, ?_⟩
    · rw [List.map_cons, BulkBody.encodeLines_cons, one, others]
      rfl
    · rw [List.flatMap_cons]
      exact List.forall_mem_append.2 ⟨lines, rest⟩

/-- Records can be written, and what is written are the lines of passages from lines of the file,
one for each record and in their order, and nothing else. -/
def CarriedVerbatim (g : ApiGeneration) (index : String) (lines : List (Option String))
    (batch : List Record) : Prop :=
  ∃ passages : List Passage, passages.map (·.record) = batch ∧
    (passages.map (some ·.line)).Sublist lines ∧
    (∀ p ∈ passages, p.Verbatim g index) ∧
    ∃ text, encode g index (batch.map Record.operation) = .ok text ∧
      Text.splitOn '\n' text.toList = (passages.flatMap (·.body)).map String.toList ++ [[]]

/-- **Documents go from a record file to the wire as they are.** Any part of the records that are
read from a file, in their order, can be written, with each document as it is in its line. What a
feed adds are these records, one after another up to the end or to a fault. -/
theorem documents_verbatim (g : ApiGeneration) (index : String) {files : Files} {path : String}
    {source : RecordSource} (opened : ofFile? path (files path) = some source) (calls : Nat) :
    (∀ batch, batch.Sublist (records (source.nexts calls).1) →
      CarriedVerbatim g index source.lines batch) ∧
    ∀ rs : List Record, (source.nexts calls).1 = rs.map (fun r => .ok (some r)) →
      ∀ {σ τ : Type} (cluster : Cluster σ τ),
      feed cluster files (some path) = (do
        (Session.performAll cluster (rs.map fun r => .add r.operation)).adaptExcept .index
        match (source.nexts calls).2.next with
        | (.ok none, _) => return ()
        | (.ok (some r), rest) => do
          (Session.add cluster r.operation).adaptExcept .index
          feedLines cluster path rest.lines rest.line
        | (.error fault, _) => throw (.record fault)) := by
  refine ⟨fun batch part => ?_, fun rs read σ τ cluster => ?_⟩
  · obtain ⟨pairs, same, writes, lines⟩ := lines_of_nexts calls source
    rw [← same] at part
    obtain ⟨chosen, inside, rfl⟩ := List.sublist_map_iff.1 part
    have lines : (chosen.map (some ·.1)).Sublist source.lines := (inside.map _).trans lines
    have unbroken : ∀ p ∈ chosen, '\n' ∉ p.1.toList := fun p hp =>
      unbroken_of_ofFile? opened (lines.subset (List.mem_map_of_mem hp))
    obtain ⟨passages, rfl, verbatim, encoded, whole⟩ :=
      exists_passages g index (fun p hp => writes p (inside.subset hp)) unbroken
    refine ⟨passages,
      by simp, by simpa [Function.comp_def] using lines, verbatim, _, ?_, Text.splitOn_lines whole⟩
    unfold encode
    rw [List.map_map, show encodeLines g index (List.map (Record.operation ∘ _) _) = _ from encoded]
    rfl
  · obtain ⟨start, counted⟩ := start_of_ofFile? opened
    have rest := feedLines_next cluster (source.nexts calls).2
    rw [path_nexts, start] at rest
    have fed := feedLines_nexts cluster read
    rw [start, counted] at fed
    rw [feed_of_opened opened, fed, rest]

/-- Blanks in a document stay, blanks around a line go, and what a deletion holds is left behind. -/
theorem documents_verbatim_blanks :
    let first := "  [\"a\",\"index\", \x7b\"t\" :\t[1,  2]\x7d ]\r"
    let second := "\x7b\"doc\": 1e999 ,\"op\":\"update\",\"id\":\"b\"\x7d"
    let third := "\x7b\"id\":\"c\",\"op\":\"delete\",\"doc\":[]\x7d"
    let files : Files :=
      fun _ => .content (first ++ "\n\n" ++ second ++ "\n" ++ third).toUTF8.data.toList
    let source : RecordSource := ⟨"r", [some first, some "", some second, some third], 0⟩
    let rs : List Record :=
      [⟨.index, "a", some "\x7b\"t\" :\t[1,  2]\x7d"⟩, ⟨.update, "b", some "1e999"⟩,
        ⟨.delete, "c", none⟩]
    ofFile? "r" (files "r") = some source ∧ (source.nexts 3).1 = rs.map (fun r => .ok (some r)) ∧
      CarriedVerbatim .typeless "i" source.lines rs ∧
      ((encode .typeless "i" (rs.map Record.operation)).map fun text =>
        (Text.splitOn '\n' text.toList).map String.ofList) = .ok
        ["\x7b\"index\":\x7b\"_id\":\"a\",\"_index\":\"i\"\x7d\x7d", "\x7b\"t\" :\t[1,  2]\x7d",
          "\x7b\"update\":\x7b\"_id\":\"b\",\"_index\":\"i\"\x7d\x7d", "\x7b\"doc\":1e999\x7d",
          "\x7b\"delete\":\x7b\"_id\":\"c\",\"_index\":\"i\"\x7d\x7d", ""] ∧
      feed MemoryCluster.cluster files (some "r") = (do
        (Session.performAll MemoryCluster.cluster (rs.map fun r => .add r.operation)).adaptExcept
          .index
        return ()) := by
  intro first second third files source rs
  have opened : ofFile? "r" (files "r") = some source := by decide +kernel
  have read : (source.nexts 3).1 = rs.map fun r => .ok (some r) := by decide +kernel
  have ended : (source.nexts 3).2.next = (.ok none, (source.nexts 3).2) := by decide +kernel
  obtain ⟨carried, fed⟩ := documents_verbatim .typeless "i" opened 3
  refine ⟨opened, read, carried rs ?_, by decide +kernel, ?_⟩
  · rw [read]
    exact List.Sublist.refl rs
  · rw [fed rs read MemoryCluster.cluster, ended]

end RecordSource

end Reindex
