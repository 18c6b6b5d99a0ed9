import Reindex.Proofs.Record.Verbatim
import Reindex.Text.Pieces

/-!
# A record file is read line by line

The lines of a text are what stands between its line feeds; what stands behind the last one is a
line if it is not empty. A source gives one answer for each line that is not blank, in their order:
the record that the line writes, trimmed of blanks, or the fault of the line with its number among
all lines of the text. Behind the last line it has nothing more to give.

Main statements: `splitLines_encoded` for the bytes of a text, `RecordSource.nexts_ofLines` for the
answers of a source, and `RecordSource.nexts_of_text`.
-/

namespace Reindex

/-! ## Lines of a text -/

namespace Text

/-- The lines of a text, without the line feeds that end them. -/
def lines (cs : List Char) : List (List Char) :=
  let pieces := splitOn '\n' cs
  if pieces.getLast? = some [] then pieces.dropLast else pieces

theorem lines_newline (cs : List Char) : lines ('\n' :: cs) = [] :: lines cs := by
  obtain ⟨piece, pieces, split⟩ := List.exists_cons_of_ne_nil (splitOn_ne_nil '\n' cs)
  unfold lines
  rw [splitOn, if_pos rfl, split]
  simp only [List.getLast?_cons_cons, List.dropLast_cons_cons]
  split <;> rfl

/-- A character goes to the front of the first line behind it. -/
theorem lines_cons {c : Char} (other : c ≠ '\n') (cs : List Char) :
    lines (c :: cs) = match lines cs with
      | line :: lines => (c :: line) :: lines
      | [] => [[c]] := by
  obtain ⟨piece, pieces, split⟩ := List.exists_cons_of_ne_nil (splitOn_ne_nil '\n' cs)
  unfold lines
  rw [splitOn, if_neg other, split]
  cases pieces with
  | nil => cases piece <;> simp
  | cons next pieces =>
    simp only [List.getLast?_cons_cons, List.dropLast_cons_cons]
    split <;> rfl

/-- Of all characters the line feed alone is written with a byte for the line feed. -/
theorem newline_not_mem_utf8EncodeChar {c : Char} (other : c ≠ '\n') :
    0x0A ∉ String.utf8EncodeChar c := by
  have code : c.val.toNat ≠ 10 := fun h => other (Char.ext (UInt32.toNat_inj.1 h))
  have byte {n : Nat} (small : n < 256) (h : n ≠ 10) : (0x0A : UInt8) ≠ UInt8.ofNat n :=
    fun same => by
    have value := congrArg UInt8.toNat same
    rw [UInt8.toNat_ofNat_of_lt' small] at value
    exact h value.symm
  unfold String.utf8EncodeChar
  dsimp only
  split
  · exact fun h => byte (by omega) code (List.mem_singleton.1 h)
  · -- the bytes of a longer code have their highest bit set
    split
    · simp only [List.mem_cons, List.not_mem_nil, or_false, not_or]
      exact ⟨byte (by omega) (by omega), byte (by omega) (by omega)⟩
    · split
      · simp only [List.mem_cons, List.not_mem_nil, or_false, not_or]
        exact ⟨byte (by omega) (by omega), byte (by omega) (by omega), byte (by omega) (by omega)⟩
      · simp only [List.mem_cons, List.not_mem_nil, or_false, not_or]
        exact ⟨byte (by omega) (by omega), byte (by omega) (by omega), byte (by omega) (by omega),
          byte (by omega) (by omega)⟩

theorem fromUTF8?_encoded (cs : List Char) :
    String.fromUTF8? ⟨(cs.flatMap String.utf8EncodeChar).toArray⟩ = some (String.ofList cs) := by
  have bytes : (⟨(cs.flatMap String.utf8EncodeChar).toArray⟩ : ByteArray) = cs.utf8Encode :=
    ByteArray.ext (Array.toList_inj.1 List.toList_data_toByteArray.symm)
  rw [bytes]
  exact dif_pos ⟨cs, rfl⟩

end Text

/-! ## Lines of a file -/

/-- Bytes without a line feed go to the front of the first line behind them. -/
theorem splitLines_append {bytes : List UInt8} (unbroken : 0x0A ∉ bytes) (given : bytes ≠ [])
    (rest : List UInt8) :
    splitLines (bytes ++ rest) = match splitLines rest with
      | line :: lines => (bytes ++ line) :: lines
      | [] => [bytes] := by
  induction bytes with
  | nil => exact absurd rfl given
  | cons b bytes ih =>
    obtain ⟨head, unbroken⟩ := not_or.1 (List.mem_cons.not.1 unbroken)
    rw [List.cons_append, splitLines, if_neg (Ne.symm head)]
    by_cases last : bytes = []
    · rw [last, List.nil_append]
      rfl
    · rw [ih unbroken last]
      cases splitLines rest <;> rfl

/-- **The lines of a file** that holds a text are the lines of the text. -/
theorem splitLines_encoded (cs : List Char) :
    splitLines (cs.flatMap String.utf8EncodeChar) = (Text.lines cs).map
      (·.flatMap String.utf8EncodeChar) := by
  induction cs with
  | nil => rfl
  | cons c cs ih =>
    rw [List.flatMap_cons]
    by_cases newline : c = '\n'
    · have feed : String.utf8EncodeChar '\n' = [0x0A] := by decide
      rw [newline, feed, List.singleton_append, splitLines, if_pos rfl, ih, Text.lines_newline]
      rfl
    · rw [splitLines_append (Text.newline_not_mem_utf8EncodeChar newline)
        String.utf8EncodeChar_ne_nil, ih,
        Text.lines_cons newline]
      cases Text.lines cs <;> simp

namespace RecordSource

/-- A source that has lines of a text before it and counted so many. -/
def ofLines (path : String) (lines : List (List Char)) (counted : Nat) : RecordSource :=
  ⟨path, lines.map fun line => some (String.ofList line), counted⟩

theorem ofFile?_of_text (path : String) {bytes : List UInt8} {text : String}
    (utf8 : (FileEntry.content bytes).text? = some text) :
    ofFile? path (.content bytes) = some (ofLines path (Text.lines text.toList) 0) := by
  have lines := splitLines_encoded text.toList
  rw [encoded_of_fromUTF8? utf8] at lines
  simp only [ofFile?, lines, List.map_map, Function.comp_def, Text.fromUTF8?_encoded]
  rfl

/-! ## Answers -/

/-- The lines that are not blank, trimmed, each with its number, where the first of all has the
number `first`. -/
def writtenFrom (first : Nat) (lines : List (List Char)) : List (List Char × Nat) :=
  ((lines.map Text.trim).zipIdx first).filter fun line => !line.1.isEmpty

/-- The record of a trimmed line with its number, or why it is none. -/
def answerOf (path : String) (line : List Char × Nat) : Except RecordFault (Option Record) :=
  match Record.parse (String.ofList line.1) with
  | .ok record => .ok (some record)
  | .error fault => .error (.badRecord path line.2 fault)

theorem writtenFrom_cons (first : Nat) (line : List Char) (lines : List (List Char)) :
    writtenFrom first (line :: lines) =
      if (Text.trim line).isEmpty then writtenFrom (first + 1) lines
      else (Text.trim line, first) :: writtenFrom (first + 1) lines := by
  unfold writtenFrom
  rw [List.map_cons, List.zipIdx_cons, List.filter_cons]
  cases (Text.trim line).isEmpty <;> rfl

theorem next_ofLines_cons (path : String) (line : List Char) (lines : List (List Char))
    (counted : Nat) :
    (ofLines path (line :: lines) counted).next =
      if (Text.trim line).isEmpty then (ofLines path lines (counted + 1)).next
      else (answerOf path (Text.trim line, counted + 1), ofLines path lines (counted + 1)) := by
  unfold next ofLines answerOf
  simp only [List.map_cons, read, String.toList_ofList]
  split
  · rfl
  · cases Record.parse (String.ofList (Text.trim line)) <;> rfl

/-- **One call** gives the first line that is not blank, if there is one, and leaves the others. -/
theorem next_ofLines (path : String) (lines : List (List Char)) (counted : Nat) :
    match writtenFrom (counted + 1) lines with
    | [] => ∃ m, (ofLines path lines counted).next = (.ok none, ofLines path [] m)
    | line :: rest => ∃ left m,
        (ofLines path lines counted).next = (answerOf path line, ofLines path left m) ∧
        writtenFrom (m + 1) left = rest := by
  induction lines generalizing counted with
  | nil => exact ⟨counted, rfl⟩
  | cons line lines ih =>
    rw [writtenFrom_cons, next_ofLines_cons]
    by_cases blank : (Text.trim line).isEmpty = true
    · rw [if_pos blank, if_pos blank]
      exact ih (counted + 1)
    · rw [if_neg blank, if_neg blank]
      exact ⟨lines, counted + 1, rfl, rfl⟩

/-- **Calls one after another** give the lines that are not blank, each once and in order, and then
nothing. -/
theorem nexts_ofLines (calls : Nat) (path : String) (lines : List (List Char)) (counted : Nat) :
    ((ofLines path lines counted).nexts calls).1 =
      ((writtenFrom (counted + 1) lines).map (answerOf path)).take calls ++
        List.replicate (calls - (writtenFrom (counted + 1) lines).length) (.ok none) := by
  induction calls generalizing lines counted with
  | zero => simp [nexts]
  | succ calls ih =>
    have step := next_ofLines path lines counted
    rw [nexts]
    cases written : writtenFrom (counted + 1) lines with
    | nil =>
      rw [written] at step
      obtain ⟨m, step⟩ := step
      have exhausted : writtenFrom (m + 1) [] = [] := rfl
      simp only [step, ih, exhausted]
      simp [List.replicate_succ]
    | cons line rest =>
      rw [written] at step
      obtain ⟨left, m, step, others⟩ := step
      simp only [step, ih, others]
      simp

/-- A numbered line stands under its number in the text. -/
theorem getElem?_of_mem_writtenFrom {lines : List (List Char)} {line : List Char × Nat}
    (h : line ∈ writtenFrom 1 lines) :
    1 ≤ line.2 ∧ ∃ whole, lines[line.2 - 1]? = some whole ∧ Text.trim whole = line.1 := by
  obtain ⟨numbered, -⟩ := List.mem_filter.1 h
  obtain ⟨first, place⟩ := List.mk_mem_zipIdx_iff_le_and_getElem?_sub.1 numbered
  rw [List.getElem?_map, Option.map_eq_some_iff] at place
  exact ⟨first, place⟩

/-- A fault that is answered is that of a line, and names the line by its number. -/
theorem line_of_error {path : String} {lines : List (List Char)} {calls : Nat} {fault : RecordFault}
    (h : .error fault ∈ ((ofLines path lines 0).nexts calls).1) :
    ∃ n line reason, lines[n]? = some line ∧
      Record.parse (String.ofList (Text.trim line)) = .error reason ∧
      fault = .badRecord path (n + 1) reason := by
  rw [nexts_ofLines] at h
  rcases List.mem_append.1 h with h | h
  · obtain ⟨line, written, answer⟩ := List.mem_map.1 (List.mem_of_mem_take h)
    obtain ⟨first, whole, place, trimmed⟩ := getElem?_of_mem_writtenFrom written
    unfold answerOf at answer
    split at answer
    · cases answer
    · rename_i reason parsed
      cases answer
      refine ⟨line.2 - 1, whole, reason, place, trimmed ▸ parsed, ?_⟩
      rw [Nat.sub_add_cancel first]
  · cases List.eq_of_mem_replicate h

/-- **A record file is read line by line.** Of a file that holds a text, each call gives what the
next line that is not blank comes to, trimmed: its record, or its fault; behind the last line there
is nothing more. A fault names the line that it is about by its number among all lines. -/
theorem nexts_of_text (path : String) {bytes : List UInt8} {text : String}
    (utf8 : (FileEntry.content bytes).text? = some text) :
    ∃ source, ofFile? path (.content bytes) = some source ∧
      ∀ calls, (source.nexts calls).1 =
          ((writtenFrom 1 (Text.lines text.toList)).map (answerOf path)).take calls ++
            List.replicate (calls - (writtenFrom 1 (Text.lines text.toList)).length) (.ok none) ∧
        ∀ fault, .error fault ∈ (source.nexts calls).1 →
          ∃ n line reason, (Text.lines text.toList)[n]? = some line ∧
            Record.parse (String.ofList (Text.trim line)) = .error reason ∧
            fault.message = "💀 bad record at " ++ path ++ ":" ++ toString (n + 1) := by
  refine ⟨_, ofFile?_of_text path utf8, fun calls =>
    ⟨nexts_ofLines calls path _ 0, fun fault given => ?_⟩⟩
  obtain ⟨n, line, reason, place, parsed, rfl⟩ := line_of_error given
  exact ⟨n, line, reason, place, parsed, rfl⟩

/-- Blank lines are counted and passed over, a carriage return goes with the blanks, and the last
line needs no line feed. -/
theorem nexts_of_text_broken :
    let record := "\x7b\"id\":\"a\",\"op\":\"delete\"\x7d"
    let text := "\n \t\n" ++ record ++ "\r\n\u2003\n oops"
    let bytes := text.toUTF8.data.toList
    ∃ source, (FileEntry.content bytes).text? = some text ∧
      ofFile? "r" (.content bytes) = some source ∧
      (source.nexts 4).1 =
        [.ok (some ⟨.delete, "a", none⟩), .error (.badRecord "r" 5 .notAnObject), .ok none,
          .ok none] := by
  intro record text bytes
  have utf8 : (FileEntry.content bytes).text? = some text := by decide +kernel
  obtain ⟨source, opened, answers⟩ := nexts_of_text "r" utf8
  refine ⟨source, utf8, opened, (answers 4).1.trans ?_⟩
  decide +kernel

end RecordSource

end Reindex
