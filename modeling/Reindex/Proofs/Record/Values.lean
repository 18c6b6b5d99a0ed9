import Reindex.Proofs.Json.Scanning
import Reindex.Proofs.Json.Spelling
import Reindex.Proofs.Record.Document

/-!
# The values of a record, as they are written

An identifier is written as a string, a kind as a string or as an object with one null, and a
document as any value. Each is read from such a text and from no other, and what comes behind the
text is left.

Main statement: `Record.readMember_item`. What reading one member adds to what was read before.
-/

namespace Reindex

theorem OpKind.eq_name_of_ofName? {name : String} {kind : OpKind}
    (h : OpKind.ofName? name = some kind) : name = kind.name := by
  unfold OpKind.ofName? at h
  split at h <;> cases h <;> rfl

namespace Record

open Json (Blank Item Member ValueText Spells quoted nullText skipSpaces_blank
  exists_blank_of_skipSpaces closers)
open Json.Reader
  (skipSpaces skipSpaces_idem Ends ends_cons ends_nil stringBody skipSpaces_of_visible
    stringBody_eq_ok_iff)
open Json.Scan
  (raw raw_append raw_valueText valueText_of_raw exists_raw word_eq_some_iff skipSpaces_valueText
    head_of_valueText)

/-! ## Texts -/

def StringText (s : String) (text : List Char) : Prop :=
  ∃ content, Spells content s.toList ∧ text = quoted content

/-- The text of a kind: its name, or an object whose one member has that name and is null. -/
inductive KindText (kind : OpKind) : List Char → Prop
  | name {text : List Char} (named : StringText kind.name text) : KindText kind text
  | object {m : Member} (spaced : m.Spaced) (named : Spells m.key kind.name.toList)
      (null : m.held.value = nullText) :
    KindText kind ('\x7b' :: (m.text ++ ['\x7d']))

/-- A document is kept as its text, and null as none. -/
def docOf (text : List Char) : Option String :=
  if text = nullText then none else some (String.ofList text)

def DocText (doc : Option String) (text : List Char) : Prop := ValueText text ∧ doc = docOf text

/-! ## Readers -/

/-- What the reader takes off the front is the text of one value, a text of what it gives, and it
takes every such text. -/
structure Understands {α : Type} (read : List Char → Option (α × List Char))
    (Text : α → List Char → Prop) : Prop where
  sound {cs left : List Char} {a : α} : read cs = some (a, left) →
    ∃ text, raw cs = some (text, left) ∧ Text a text
  complete {s text rest : List Char} {a : α} : Blank s → Text a text → Ends rest →
    read (s ++ (text ++ rest)) = some (a, rest)

theorem raw_item {i : Item} (spaced : i.Spaced) (valid : ValueText i.value) {close : Char}
    (closes : close ∈ closers) (rest : List Char) :
    raw (i.text ++ close :: rest) = some (i.value, i.after ++ close :: rest) := by
  rw [Item.text, List.append_assoc, List.append_assoc]
  exact raw_valueText spaced.1 valid (spaced.2.ends_close closes rest)

theorem raw_skipSpaces (cs : List Char) : raw (skipSpaces cs) = raw cs := by
  unfold raw
  rw [skipSpaces_idem]

/-- The value of an item is read, and what comes behind it is left. -/
theorem Understands.item {α : Type} {read : List Char → Option (α × List Char)}
    {Text : α → List Char → Prop} (h : Understands read Text) {i : Item} (spaced : i.Spaced)
    (valid : ValueText i.value) {close : Char} (closes : close ∈ closers) {a : α}
    {left rest : List Char} :
    read (i.text ++ close :: rest) = some (a, left) ↔ Text a i.value ∧
    left = i.after ++ close :: rest := by
  constructor
  · intro taken
    obtain ⟨text, written, meant⟩ := h.sound taken
    cases (raw_item spaced valid closes rest).symm.trans written
    exact ⟨meant, rfl⟩
  · rintro ⟨meant, rfl⟩
    rw [Item.text, List.append_assoc, List.append_assoc]
    exact h.complete spaced.1 meant (spaced.2.ends_close closes rest)

/-- A text is understood in one way. -/
theorem Understands.unique {α : Type} {read : List Char → Option (α × List Char)}
    {Text : α → List Char → Prop} (h : Understands read Text) {a b : α} {text : List Char}
    (first : Text a text) (second : Text b text) : a = b :=
  (Prod.mk.inj
    (Option.some.inj
      ((h.complete .nil first ends_nil).symm.trans (h.complete .nil second ends_nil)))).1

/-- What was taken is the text of the value that stands there. -/
theorem raw_of_taken {cs text left : List Char}
    (scanned : ∀ fuel, Json.Scan.value (fuel + 3) cs = some left)
    (stands : skipSpaces cs = text ++ left) : raw cs = some (text, left) := by
  obtain ⟨taken, written⟩ := exists_raw scanned
  rw [raw_append written] at stands
  rw [written, List.append_cancel_right stands]

theorem readString_eq_some_iff {cs left : List Char} {s : String} :
    readString cs = some (s, left) ↔ ∃ content, Spells content s.toList ∧
    skipSpaces cs = quoted content ++ left := by
  constructor
  · intro h
    unfold readString at h
    split at h
    · rename_i more quote
      cases body : stringBody [] more with
      | error stop =>
        rw [body] at h
        cases h
      | ok read =>
        rw [body] at h
        cases h
        obtain ⟨content, spelled, rfl⟩ := stringBody_eq_ok_iff.1 body
        exact ⟨content, by rwa [String.toList_ofList], by rw [quote]; simp [quoted]⟩
    · cases h
  · rintro ⟨content, spelled, stands⟩
    have read : stringBody [] (content ++ '"' :: left) = .ok (s.toList, left) :=
      stringBody_eq_ok_iff.2 ⟨content, spelled, rfl⟩
    have quote : skipSpaces cs = '"' :: (content ++ '"' :: left) := by
      rw [stands]
      simp [quoted]
    unfold readString
    simp only [quote, read, Except.toOption, Option.map_some, String.ofList_toList]

theorem understands_string : Understands readString StringText where
  sound h := by
    obtain ⟨content, spelled, stands⟩ := readString_eq_some_iff.1 h
    exact ⟨quoted content, raw_of_taken (fun fuel => value_of_readString h (fuel + 2)) stands,
      content, spelled, rfl⟩
  complete {s text rest a} blank h _ := by
    obtain ⟨content, spelled, rfl⟩ := h
    exact readString_eq_some_iff.2 ⟨content, spelled, by rw [skipSpaces_blank blank]; rfl⟩

theorem understands_kind : Understands readKind KindText where
  sound {cs left kind} h := by
    suffices ∃ text, KindText kind text ∧ skipSpaces cs = text ++ left by
      obtain ⟨text, meant, stands⟩ := this
      exact ⟨text, raw_of_taken (value_of_readKind h) stands, meant⟩
    unfold readKind at h
    split at h
    · rename_i inner opened
      obtain ⟨⟨name, afterName⟩, named, h⟩ := Option.bind_eq_some_iff.1 h
      obtain ⟨afterColon, colon, h⟩ := Option.bind_eq_some_iff.1 h
      obtain ⟨kind', known, h⟩ := Option.bind_eq_some_iff.1 h
      obtain ⟨afterNull, null, h⟩ := Option.bind_eq_some_iff.1 h
      obtain ⟨rest, closed, h⟩ := Option.bind_eq_some_iff.1 h
      cases h
      obtain ⟨key, spelled, stands⟩ := readString_eq_some_iff.1 named
      rw [OpKind.eq_name_of_ofName? known] at spelled
      obtain ⟨a, before, rfl⟩ := exists_blank_of_skipSpaces stands
      obtain ⟨b, behind, rfl⟩ := exists_blank_of_skipSpaces (expect_eq_some_iff.1 colon)
      obtain ⟨c, front, rfl⟩ := exists_blank_of_skipSpaces (word_eq_some_iff.1 null)
      obtain ⟨d, after, rfl⟩ := exists_blank_of_skipSpaces (expect_eq_some_iff.1 closed)
      refine ⟨_, .object (m := ⟨a, key, b, ⟨c, nullText, d⟩⟩) ⟨before, behind, front,
        after⟩ spelled rfl, ?_⟩
      rw [opened]
      simp [Member.text, Item.text, nullText]
    · obtain ⟨⟨name, rest⟩, named, h⟩ := Option.bind_eq_some_iff.1 h
      obtain ⟨kind', known, h⟩ := Option.bind_eq_some_iff.1 h
      cases h
      rw [readString_skipSpaces] at named
      obtain ⟨content, spelled, stands⟩ := readString_eq_some_iff.1 named
      exact ⟨_, .name ⟨content, OpKind.eq_name_of_ofName? known ▸ spelled, rfl⟩, stands⟩
  complete {s text rest kind} blank h ends := by
    cases h with
    | name named =>
      have read := understands_string.complete blank named ends
      obtain ⟨content, spelled, rfl⟩ := named
      rw [← readString_skipSpaces] at read
      unfold readKind
      split
      · rename_i inner opened
        rw [skipSpaces_blank blank] at opened
        cases opened
      · simp only [read, Option.bind_eq_bind, Option.bind_some, OpKind.ofName?_name,
          Option.pure_def]
    | @object m spaced named null =>
      have opened : skipSpaces (s ++ ('\x7b' :: (m.text ++ ['\x7d']) ++ rest)) =
        '\x7b' :: (m.text ++ '\x7d' :: rest) := by
        rw [skipSpaces_blank blank, List.cons_append, skipSpaces_of_visible rfl, List.append_assoc,
          List.singleton_append]
      have name : readString (m.text ++ '\x7d' :: rest) =
          some (kind.name, m.behind ++ ':' :: (m.held.text ++ '\x7d' :: rest)) :=
        readString_eq_some_iff.2 ⟨m.key, named, by rw [spaced.skipSpaces_text]; simp [quoted]⟩
      have colon := expect_eq_some_iff.2 (spaced.skipSpaces_colon (m.held.text ++ '\x7d' :: rest))
      have word : Json.Scan.word ['n', 'u', 'l', 'l'] (skipSpaces (m.held.text ++ '\x7d' :: rest)) =
          some (m.held.after ++ '\x7d' :: rest) := by
        rw [word_eq_some_iff, Item.text, null, List.append_assoc, List.append_assoc,
          skipSpaces_blank spaced.2.2.1]
        rfl
      have closed :=
        expect_eq_some_iff.2 (spaced.2.2.2.skipSpaces_close (show '\x7d' ∈ closers by decide) rest)
      unfold readKind
      simp only [opened, name, colon, word, closed, Option.bind_eq_bind, Option.bind_some,
        OpKind.ofName?_name, Option.pure_def]

/-- A document is any value. Only the text of a null begins with the letter of one. -/
theorem understands_doc : Understands readDoc DocText where
  sound {cs left doc} h := by
    unfold readDoc at h
    split at h
    · rename_i more spaces
      obtain ⟨rest, null, h⟩ := Option.bind_eq_some_iff.1 h
      cases h
      have stands : skipSpaces cs = nullText ++ left := by
        rw [spaces, word_eq_some_iff.1 null]
        rfl
      exact ⟨nullText, raw_of_taken (fun fuel => value_of_null spaces null (fuel + 2)) stands,
        .word (by decide), rfl⟩
    · rename_i other
      obtain ⟨⟨text, rest⟩, written, h⟩ := Option.bind_eq_some_iff.1 h
      cases h
      rw [raw_skipSpaces] at written
      have given : text ≠ nullText := fun null => other _ (by rw [raw_append written, null]; rfl)
      exact ⟨text, written, valueText_of_raw written, by rw [docOf, if_neg given]⟩
  complete {s text rest doc} blank h ends := by
    obtain ⟨valid, rfl⟩ := h
    have start : skipSpaces (s ++ (text ++ rest)) = text ++ rest := by
      rw [skipSpaces_blank blank, skipSpaces_valueText valid]
    unfold readDoc
    split
    · rename_i more opened
      rw [start] at opened
      obtain ⟨c, behind, shape, -, -, null⟩ := head_of_valueText valid
      rw [shape] at opened
      cases opened
      obtain rfl := null rfl
      cases shape
      rfl
    · rename_i other
      have given : text ≠ nullText := fun null => other _ (by rw [start, null]; rfl)
      have written := raw_valueText .nil valid ends
      rw [List.nil_append] at written
      simp only [start, written, docOf, if_neg given, Option.bind_eq_bind, Option.bind_some,
        Option.pure_def]

/-! ## Members -/

/-- What the text of a value adds to what was read, under a name: each of the three once, and
nothing under others. -/
def Adds (m : Members) (name : String) (text : List Char) (m' : Members) : Prop :=
  name = "id" ∧ m.id = none ∧ (∃ id, StringText id text ∧ m' = { m with id := some id }) ∨
  name = "op" ∧ m.op = none ∧ (∃ op, KindText op text ∧ m' = { m with op := some op }) ∨
  name = "doc" ∧ m.doc = none ∧ m' = { m with doc := some (docOf text) } ∨
  name ∉ ["id", "op", "doc"] ∧ m' = m

/-- What may be read once is read if it was not before. -/
theorem Understands.once {α β : Type} {read : List Char → Option (α × List Char)}
    {Text : α → List Char → Prop} (h : Understands read Text) {i : Item} (spaced : i.Spaced)
    (valid : ValueText i.value) {close : Char} (closes : close ∈ closers) {before : Option β}
    {f : α → Members} {m' : Members} {left rest : List Char} :
    (if before.isSome = true then none else do
      let (a, left) ← read (i.text ++ close :: rest)
      return (f a, left)) = some (m', left) ↔
      before = none ∧ (∃ a, Text a i.value ∧ m' = f a) ∧ left = i.after ++ close :: rest := by
  cases before with
  | some b => simp
  | none =>
    simp only [Option.isSome_none, Bool.false_eq_true, if_false, true_and, Option.bind_eq_bind,
      Option.bind_eq_some_iff, Option.pure_def, Option.some.injEq, Prod.mk.injEq, Prod.exists,
        h.item spaced valid closes]
    constructor
    · rintro ⟨a, left', ⟨meant, rfl⟩, rfl, rfl⟩
      exact ⟨⟨a, meant, rfl⟩, rfl⟩
    · rintro ⟨⟨a, meant, rfl⟩, rfl⟩
      exact ⟨a, _, ⟨meant, rfl⟩, rfl, rfl⟩

/-- **One member is read,** and what comes behind it is left. -/
theorem readMember_item {m m' : Members} {name : String} {i : Item} (spaced : i.Spaced)
    (valid : ValueText i.value) {close : Char} (closes : close ∈ closers) {left rest : List Char} :
    readMember m name (i.text ++ close :: rest) = some (m', left) ↔ Adds m name i.value m' ∧
    left = i.after ++ close :: rest := by
  unfold readMember
  split
  · refine (understands_string.once (f := fun id => { m with id := some id })
      spaced valid closes).trans ?_
    simp [Adds, and_assoc]
  · refine (understands_kind.once (f := fun op => { m with op := some op })
      spaced valid closes).trans ?_
    simp [Adds, and_assoc]
  · refine (understands_doc.once (f := fun doc => { m with doc := some doc })
      spaced valid closes).trans ?_
    simp [Adds, DocText, valid, and_assoc]
  · rename_i notId notOp notDoc
    have other : name ≠ "id" ∧ name ≠ "op" ∧ name ≠ "doc" := ⟨notId, notOp, notDoc⟩
    rw [raw_item spaced valid closes]
    simp [Adds, other, eq_comm]

end Record

end Reindex
