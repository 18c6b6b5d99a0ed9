import Reindex.Proofs.Record.Lines

/-!
# What a record line may be

The values of a record may also stand in an array, where they are named by their places. Nothing
else is a record line than an object or an array: so a line is a record exactly if it is written as
one of the two and its values write that record.

Main statement: `Record.parse_objectLine`. It rests on `Record.parse_eq_ok_iff_lineText` for what a
line may be, and on what is known of lines with an object.
-/

namespace Reindex.Record

open Json (Blank Item Member ValueText Content Spells Separated quoted nullText skipSpaces_blank
  exists_blank_of_skipSpaces closers)
open Json.Reader (skipSpaces skipSpaces_of_visible)
open Json.Scan (raw_append valueText_of_raw)

/-! ## Arrays -/

/-- Items as they stand between the brackets of an array. -/
structure ArrayBody (is : List Item) (body : List Char) : Prop where
  separated : Separated Item.text is body
  spaced : ∀ i ∈ is, i.Spaced
  valid : ∀ i ∈ is, ValueText i.value

/-- A line that begins with an array, and what comes behind it. -/
def ArrayLine (line : List Char) (is : List Item) (behind : List Char) : Prop :=
  ∃ s body, Blank s ∧ ArrayBody is body ∧ line = s ++ '[' :: (body ++ ']' :: behind)

/-- The values that items hold, under names in turn. -/
def inTurn (names : List String) (is : List Item) : List (String × List Char) :=
  names.zip (is.map Item.value)

section Arrays

variable {m m' : Members} {left rest : List Char} {names : List String}

theorem readItems_item {name : String} {i : Item} (spaced : i.Spaced) (valid : ValueText i.value)
    {close : Char} (closes : close ∈ closers) {read : Members × List Char} :
    readItems (name :: names) m (i.text ++ close :: rest) = some read ↔
      ∃ m₁, Adds m name i.value m₁ ∧ (match close :: rest with
        | ',' :: rest => readItems names m₁ rest
        | ']' :: rest => some (m₁, rest)
        | _ => none) = some read := by
  simp only [readItems, Option.bind_eq_bind]
  refine (readMember_bind spaced valid closes).trans ?_
  simp only [spaced.2.skipSpaces_close closes]
  rfl

theorem readItems_eq_some_iff {is : List Item} {body : List Char} (h : ArrayBody is body)
    (given : is ≠ []) :
    readItems names m (body ++ ']' :: rest) = some (m', left) ↔
      (is.length ≤ names.length ∧ Kept (inTurn names is) m m') ∧ left = rest := by
  obtain ⟨separated, spaced, valid⟩ := h
  induction separated generalizing names m with
  | none => exact absurd rfl given
  | one i =>
    cases names with
    | nil => simp [readItems]
    | cons name names =>
      have all : inTurn (name :: names) [i] = [(name, i.value)] := by simp [inTurn]
      rw [readItems_item (spaced i (.head _)) (valid i (.head _)) (by decide)]
      simp only [all, kept_cons, kept_nil, Option.some.injEq, Prod.mk.injEq]
      constructor
      · rintro ⟨m₁, adds, rfl, rfl⟩
        exact ⟨⟨by simp, m₁, adds, rfl⟩, rfl⟩
      · rintro ⟨⟨-, m₁, adds, rfl⟩, rfl⟩
        exact ⟨_, adds, rfl, rfl⟩
  | @more i j is body _ ih =>
    cases names with
    | nil => simp [readItems]
    | cons name names =>
      have behind (m₁ : Members) : readItems names m₁ (body ++ ']' :: rest) = some (m', left) ↔
          ((j :: is).length ≤ names.length ∧ Kept (inTurn names (j :: is)) m₁ m') ∧ left = rest :=
        ih (List.cons_ne_nil _ _) (fun i hi => spaced i (.tail _ hi))
          (fun i hi => valid i (.tail _ hi))
      have all : inTurn (name :: names) (i :: j :: is) = (name, i.value) :: inTurn names
        (j :: is) := rfl
      rw [List.append_assoc, List.cons_append, all, kept_cons,
        readItems_item (spaced i (.head _)) (valid i (.head _)) (by decide)]
      simp only [behind, List.length_cons, Nat.add_le_add_iff_right]
      constructor
      · rintro ⟨m₁, adds, ⟨few, kept⟩, rfl⟩
        exact ⟨⟨few, m₁, adds, kept⟩, rfl⟩
      · rintro ⟨⟨few, m₁, adds, kept⟩, rfl⟩
        exact ⟨m₁, adds, ⟨few, kept⟩, rfl⟩

theorem readLine_of_bracket {cs inner : List Char} (opened : skipSpaces cs = '[' :: inner) :
    readLine cs = (readItems ["id", "op", "doc"] {} inner).bind ending := by
  unfold readLine
  simp only [opened]
  rfl

/-- **A line with an array is a record** exactly if its items, of which there are at most three,
write one. -/
theorem parse_eq_ok_of_arrayLine {line : String} {is : List Item} {behind : List Char}
    (h : ArrayLine line.toList is behind) (r : Record) :
    parse line = .ok r ↔ Blank behind ∧ is.length ≤ 3 ∧
    Writes (inTurn ["id", "op", "doc"] is) r := by
  obtain ⟨s, body, blank, held, shape⟩ := h
  have opened : skipSpaces line.toList = '[' :: (body ++ ']' :: behind) := by
    rw [shape, skipSpaces_blank blank, skipSpaces_of_visible rfl]
  rw [parse_eq_ok_iff, readLine_of_bracket opened]
  cases is with
  | nil =>
    have closed : skipSpaces (body ++ ']' :: behind) = ']' :: behind := by
      cases held.separated with
      | none blank => exact blank.skipSpaces_close (by decide) behind
    have nothing : readItems ["id", "op", "doc"] {} (body ++ ']' :: behind) = none := by
      have unread : readString (body ++ ']' :: behind) = none := by
        refine Option.eq_none_iff_forall_ne_some.2 fun ⟨s, left⟩ read => ?_
        obtain ⟨content, -, stands⟩ := readString_eq_some_iff.1 read
        rw [closed] at stands
        cases stands
      simp [readItems, readMember, unread]
    rw [nothing]
    constructor
    · rintro ⟨m, none, -⟩
      cases none
    · rintro ⟨-, -, ⟨⟨text, one, -⟩, -, -, -⟩⟩
      cases one
  | cons i is =>
    simp only [writes_iff, Option.bind_eq_some_iff, Prod.exists,
      readItems_eq_some_iff held (List.cons_ne_nil i is), ending_eq_some_iff]
    constructor
    · rintro ⟨m, ⟨m₁, rest, ⟨⟨few, kept⟩, rfl⟩, spaces, rfl⟩, gives⟩
      exact ⟨spaces, few, m, kept, gives⟩
    · rintro ⟨spaces, few, m, kept, gives⟩
      exact ⟨m, ⟨m, behind, ⟨⟨few, kept⟩, rfl⟩, spaces, rfl⟩, gives⟩

end Arrays

/-! ## Nothing else -/

theorem ObjectBody.one {p : Member} (spaced : p.Spaced) (key : Content p.key)
    (valid : ValueText p.held.value) :
    ObjectBody [p] p.text :=
  ⟨.one p, List.forall_mem_singleton.2 spaced, List.forall_mem_singleton.2 key,
    List.forall_mem_singleton.2 valid⟩

theorem ObjectBody.cons {p q : Member} {ps : List Member} {body : List Char} (spaced : p.Spaced)
    (key : Content p.key) (valid : ValueText p.held.value) (h : ObjectBody (q :: ps) body) :
    ObjectBody (p :: q :: ps) (p.text ++ ',' :: body) :=
  ⟨.more p h.separated, List.forall_mem_cons.2 ⟨spaced, h.spaced⟩,
    List.forall_mem_cons.2 ⟨key, h.keys⟩, List.forall_mem_cons.2 ⟨valid, h.valid⟩⟩

theorem ArrayBody.one {i : Item} (spaced : i.Spaced) (valid : ValueText i.value) :
    ArrayBody [i] i.text :=
  ⟨.one i, List.forall_mem_singleton.2 spaced, List.forall_mem_singleton.2 valid⟩

theorem ArrayBody.cons {i j : Item} {is : List Item} {body : List Char} (spaced : i.Spaced)
    (valid : ValueText i.value) (h : ArrayBody (j :: is) body) :
    ArrayBody (i :: j :: is) (i.text ++ ',' :: body) :=
  ⟨.more i h.separated, List.forall_mem_cons.2 ⟨spaced, h.spaced⟩,
    List.forall_mem_cons.2 ⟨valid, h.valid⟩⟩

theorem objectBody_of_readMembers {fuel : Nat} {m m' : Members} {cs left : List Char}
    (h : readMembers fuel m cs = some (m', left)) :
    ∃ p ps body, ObjectBody (p :: ps) body ∧ cs = body ++ '\x7d' :: left := by
  induction fuel generalizing m cs with
  | zero => cases h
  | succ fuel ih =>
    rw [readMembers] at h
    obtain ⟨⟨name, colon⟩, named, h⟩ := Option.bind_eq_some_iff.1 h
    obtain ⟨value, past, h⟩ := Option.bind_eq_some_iff.1 h
    obtain ⟨⟨m₁, rest⟩, read, tail⟩ := Option.bind_eq_some_iff.1 h
    obtain ⟨text, taken, -⟩ := document_of_readMember read
    have valid := valueText_of_raw taken
    obtain ⟨key, spelled, stands⟩ := readString_eq_some_iff.1 named
    obtain ⟨a, before, rfl⟩ := exists_blank_of_skipSpaces stands
    obtain ⟨b, behind, rfl⟩ := exists_blank_of_skipSpaces (expect_eq_some_iff.1 past)
    obtain ⟨s, front, rfl⟩ := exists_blank_of_skipSpaces (raw_append taken)
    dsimp only at tail
    split at tail
    · rename_i next comma
      obtain ⟨t, after, rfl⟩ := exists_blank_of_skipSpaces comma
      obtain ⟨q, ps, body, held, rfl⟩ := ih tail
      exact ⟨⟨a, key, b, ⟨s, text, t⟩⟩, _, _,
        held.cons ⟨before, behind, front, after⟩ spelled.content valid, by
          simp [Member.text, Item.text]⟩
    · rename_i closed
      cases tail
      obtain ⟨t, after, rfl⟩ := exists_blank_of_skipSpaces closed
      exact ⟨⟨a, key, b, ⟨s, text, t⟩⟩, _, _,
        .one ⟨before, behind, front, after⟩ spelled.content valid, by simp [Member.text, Item.text]⟩
    · cases tail

theorem arrayBody_of_readItems {names : List String} {m m' : Members} {cs left : List Char}
    (h : readItems names m cs = some (m', left)) :
    ∃ i is body, ArrayBody (i :: is) body ∧ cs = body ++ ']' :: left := by
  induction names generalizing m cs with
  | nil => cases h
  | cons name names ih =>
    rw [readItems] at h
    obtain ⟨⟨m₁, rest⟩, read, tail⟩ := Option.bind_eq_some_iff.1 h
    obtain ⟨text, taken, -⟩ := document_of_readMember read
    have valid := valueText_of_raw taken
    obtain ⟨s, front, rfl⟩ := exists_blank_of_skipSpaces (raw_append taken)
    dsimp only at tail
    split at tail
    · rename_i next comma
      obtain ⟨t, after, rfl⟩ := exists_blank_of_skipSpaces comma
      obtain ⟨j, is, body, held, rfl⟩ := ih tail
      exact ⟨⟨s, text, t⟩, _, _, held.cons ⟨front, after⟩ valid, by simp [Item.text]⟩
    · rename_i closed
      cases tail
      obtain ⟨t, after, rfl⟩ := exists_blank_of_skipSpaces closed
      exact ⟨⟨s, text, t⟩, _, _, .one ⟨front, after⟩ valid, by simp [Item.text]⟩
    · cases tail

/-- What fills a line with named values. -/
inductive LineText (line : List Char) : List (String × List Char) → Prop
  | object {ms : List Member} {behind : List Char} {vs : List (String × List Char)}
    (shape : ObjectLine line ms behind) (spaces : Blank behind) (named : Named ms vs) :
    LineText line vs
  | array {is : List Item} {behind : List Char} (shape : ArrayLine line is behind)
    (spaces : Blank behind) (few : is.length ≤ 3) :
    LineText line (inTurn ["id", "op", "doc"] is)

theorem shape_of_readLine {line : List Char} {m : Members} (h : readLine line = some m) :
    (∃ ms behind, ObjectLine line ms behind) ∨ ∃ is behind, ArrayLine line is behind := by
  unfold readLine at h
  dsimp only at h
  split at h
  · rename_i inner opened
    obtain ⟨s, blank, rfl⟩ := exists_blank_of_skipSpaces opened
    split at h
    · rename_i closed
      obtain ⟨t, empty, rfl⟩ := exists_blank_of_skipSpaces closed
      exact .inl ⟨[], _, s, t, blank, ⟨.none empty, by simp, by simp, by simp⟩, rfl⟩
    · obtain ⟨⟨m₁, left⟩, read, -⟩ := Option.bind_eq_some_iff.1 h
      rw [readMembers_skipSpaces] at read
      obtain ⟨p, ps, body, held, rfl⟩ := objectBody_of_readMembers read
      exact .inl ⟨_, _, s, body, blank, held, rfl⟩
  · rename_i inner opened
    obtain ⟨s, blank, rfl⟩ := exists_blank_of_skipSpaces opened
    obtain ⟨⟨m₁, left⟩, read, -⟩ := Option.bind_eq_some_iff.1 h
    obtain ⟨i, is, body, held, rfl⟩ := arrayBody_of_readItems read
    exact .inr ⟨_, _, s, body, blank, held, rfl⟩
  · cases h

/-- **A line is a record** exactly if values fill it that write the record. -/
theorem parse_eq_ok_iff_lineText {line : String} {r : Record} :
    parse line = .ok r ↔ ∃ vs, LineText line.toList vs ∧ Writes vs r := by
  constructor
  · intro h
    obtain ⟨m, read, -⟩ := parse_eq_ok_iff.1 h
    rcases shape_of_readLine read with ⟨ms, behind, shape⟩ | ⟨is, behind, shape⟩
    · obtain ⟨spaces, vs, named, writes⟩ := (parse_eq_ok_of_objectLine shape r).1 h
      exact ⟨vs, .object shape spaces named, writes⟩
    · obtain ⟨spaces, few, writes⟩ := (parse_eq_ok_of_arrayLine shape r).1 h
      exact ⟨_, .array shape spaces few, writes⟩
  · rintro ⟨vs, ⟨shape, spaces, named⟩ | ⟨shape, spaces, few⟩, writes⟩
    · exact (parse_eq_ok_of_objectLine shape r).2 ⟨spaces, vs, named, writes⟩
    · exact (parse_eq_ok_of_arrayLine shape r).2 ⟨spaces, few, writes⟩

/-- **Record lines are parsed as they are written.** Whatever a line is, it is a record exactly if
values fill it that write the record. A line with an object is the record that its members write, if
each of them has a name and only spaces come behind them. It is refused for something that comes
behind it, for a name that spells no text, and for a missing, empty or repeated identifier, an
unknown or repeated kind, and a missing or repeated document, and for nothing else. -/
theorem parse_objectLine :
    (∀ (line : String) (r : Record),
      parse line = .ok r ↔ ∃ vs, LineText line.toList vs ∧ Writes vs r) ∧
    ∀ (line : String) (ms : List Member) (behind : List Char), ObjectLine line.toList ms behind →
      (∀ r, parse line = .ok r ↔ Blank behind ∧ ∃ vs, Named ms vs ∧ Writes vs r) ∧
      ((∃ fault, parse line = .error fault) ↔
        ¬ Blank behind ∨ (∃ m ∈ ms, Nameless m) ∨ ∃ vs, Named ms vs ∧ Defect vs) :=
  ⟨fun _ _ => parse_eq_ok_iff_lineText,
    fun _ _ _ h => ⟨parse_eq_ok_of_objectLine h, parse_eq_error_of_objectLine h⟩⟩

/-- Members in another order, with escapes, spaces, a value that nests and an escaped surrogate on
its own. -/
theorem parse_objectLine_update :
    let doc := "\x7b\"k\": [\"]\", \"\\ud800\"]\x7d"
    let line := " \x7b \"n\" : 1.5e3, \"doc\":\t" ++ doc ++
      " , \"op\": \"upd\\u0061te\",\"\\u0069d\":\"a\\\"\\ud83d\\ude00\"\x7d "
    let ms : List Member := [
      ⟨[' '], ['n'], [' '], ⟨[' '], "1.5e3".toList, []⟩⟩,
      ⟨[' '], "doc".toList, [], ⟨['\t'], doc.toList, [' ']⟩⟩,
      ⟨[' '], "op".toList, [], ⟨[' '], "\"upd\\u0061te\"".toList, []⟩⟩,
      ⟨[], "\\u0069d".toList, [], ⟨[], "\"a\\\"\\ud83d\\ude00\"".toList, []⟩⟩]
    ObjectLine line.toList ms [' '] ∧ parse line = .ok ⟨.update, "a\"😀", some doc⟩ := by
  intro doc line ms
  have body : ObjectBody ms _ := {
    separated := .more _ (.more _ (.more _ (.one _)))
    spaced := by decide +kernel
    keys := by decide +kernel
    valid := by decide +kernel }
  have h : ObjectLine line.toList ms [' '] := ⟨[' '], _, by decide, body, by decide +kernel⟩
  have named : Named ms (["n", "doc", "op", "id"].zip (ms.map (·.held.value))) := by
    unfold Named
    decide +kernel
  refine ⟨h, ((parse_objectLine.2 line ms _ h).1 _).2
    ⟨by decide, _, named, ?_, by decide, .inr ?_, ?_⟩⟩
  · exact ⟨_, rfl, "a\\\"\\ud83d\\ude00".toList, by decide +kernel, by decide +kernel⟩
  · exact ⟨_, rfl, .name ⟨"upd\\u0061te".toList, by decide +kernel, by decide +kernel⟩⟩
  · rw [if_neg (by decide)]
    exact ⟨_, rfl, by decide +kernel, by decide +kernel⟩

/-- An identifier and a document, and one more member whose name is none of the three but a
surrogate that is escaped on its own: the line is an object by the grammar, and yet it is no
record. -/
theorem parse_objectLine_nameless :
    let line := "\x7b\"id\":\"A\",\"doc\":\x7b\x7d,\"\\ud800\":1\x7d"
    let known : List Member := [
      ⟨[], "id".toList, [], ⟨[], "\"A\"".toList, []⟩⟩,
      ⟨[], "doc".toList, [], ⟨[], ['\x7b', '\x7d'], []⟩⟩]
    let extra : Member := ⟨[], "\\ud800".toList, [], ⟨[], ['1'], []⟩⟩
    ValueText line.toList ∧ ObjectLine line.toList (known ++ [extra]) [] ∧
      (∃ vs, Named known vs ∧ Writes vs ⟨.index, "A", some "\x7b\x7d"⟩) ∧
      (∀ name ∈ ["id", "op", "doc"], ¬ Spells extra.key name.toList) ∧
        parse line = .error .notAnObject := by
  intro line known extra
  have body : ObjectBody (known ++ [extra]) _ := {
    separated := .more _ (.more _ (.one _))
    spaced := by decide +kernel
    keys := by decide +kernel
    valid := by decide +kernel }
  have named : Named known (["id", "doc"].zip (known.map (·.held.value))) := by
    unfold Named
    decide +kernel
  refine ⟨by decide +kernel, ⟨[], _, by decide, body, by decide +kernel⟩, ⟨_, named, ?_⟩, by decide +kernel,
    by decide +kernel⟩
  exact {
    id := ⟨_, rfl, ['A'], by decide +kernel, rfl⟩
    full := by decide
    op := .inl ⟨rfl, rfl⟩
    doc := by
      rw [if_neg (by decide)]
      exact ⟨_, rfl, by decide, rfl⟩ }

end Reindex.Record
