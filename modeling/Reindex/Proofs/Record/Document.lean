import Reindex.Proofs.Json.Extent
import Reindex.Record.Line

/-!
# Where the document of a record is written

The document of a record is the text of one value of its line: of the member named `doc` if the line
is an object, of the third value if it is an array. `Record.DocumentText` says so by the scan alone,
without what the reading of a record makes of the other members.

Main statement: `Record.document_of_parse`. A record that does not delete carries that text, and
there is no other.
-/

namespace Reindex.Record

open Json (Scan.raw Scan.value)
open Json.Reader (skipSpaces skipSpaces_idem suffix_of_skipSpaces stringBody)

/-! ## What a value is read from -/

section Extent

variable {cs rest : List Char}

theorem skipSpaces_of_expect {c : Char} (h : expect c cs = some rest) :
    skipSpaces cs = c :: rest := by
  unfold expect at h
  split at h
  · rename_i d more spaces
    split at h
    · rename_i same
      cases h
      rw [spaces, same]
    · cases h
  · cases h

theorem expect_suffix {c : Char} (h : expect c cs = some rest) : rest <:+ cs :=
  suffix_of_skipSpaces [c] (skipSpaces_of_expect h)

/-- A string is behind a quote, and ends where it is scanned to. -/
theorem quote_of_readString {s : String} (h : readString cs = some (s, rest)) :
    ∃ more, skipSpaces cs = '"' :: more ∧ Json.Scan.string more = some rest := by
  unfold readString at h
  split at h
  · rename_i more quote
    cases body : stringBody [] more with
    | error stop =>
      rw [body] at h
      cases h
    | ok read =>
      rw [body] at h
      cases h
      exact ⟨more, quote, Json.Scan.string_of_stringBody body⟩
  · cases h

theorem value_of_readString {s : String} (h : readString cs = some (s, rest)) (fuel : Nat) :
    Scan.value (fuel + 1) cs = some rest := by
  obtain ⟨more, quote, scanned⟩ := quote_of_readString h
  rw [Scan.value, quote]
  exact scanned

theorem readString_suffix {s : String} (h : readString cs = some (s, rest)) : rest <:+ cs :=
  (Json.Scan.value_suffix 1).1 (value_of_readString h 0)

theorem readString_skipSpaces (cs : List Char) : readString (skipSpaces cs) = readString cs := by
  unfold readString
  rw [skipSpaces_idem]

theorem tail_of_word {w : Char} {ws : List Char} (h : Json.Scan.word (w :: ws) cs = some rest) :
    ∃ more, cs = w :: more ∧ Json.Scan.word ws more = some rest := by
  cases cs with
  | nil => cases h
  | cons c more =>
    rw [Json.Scan.word] at h
    split at h
    · rename_i same
      exact ⟨more, by rw [same], h⟩
    · cases h

theorem value_of_null {more : List Char} (spaces : skipSpaces cs = 'n' :: more)
    (word : Json.Scan.word ['u', 'l', 'l'] more = some rest) (fuel : Nat) :
    Scan.value (fuel + 1) cs = some rest := by
  rw [Scan.value, spaces]
  exact word

/-- What a kind is read from is one value: a string, or an object with one member that is null. -/
theorem value_of_readKind {kind : OpKind} (h : readKind cs = some (kind, rest)) (fuel : Nat) :
    Scan.value (fuel + 3) cs = some rest := by
  unfold readKind at h
  split at h
  · rename_i inner opened
    obtain ⟨⟨name, afterName⟩, named, h⟩ := Option.bind_eq_some_iff.1 h
    obtain ⟨afterColon, colon, h⟩ := Option.bind_eq_some_iff.1 h
    obtain ⟨_, -, h⟩ := Option.bind_eq_some_iff.1 h
    obtain ⟨afterNull, null, h⟩ := Option.bind_eq_some_iff.1 h
    obtain ⟨_, closed, h⟩ := Option.bind_eq_some_iff.1 h
    cases h
    obtain ⟨more, quote, scanned⟩ := quote_of_readString named
    obtain ⟨word, first, null⟩ := tail_of_word null
    have members : Json.Scan.members (fuel + 2) ('"' :: more) = some rest := by
      have still : skipSpaces ('"' :: more) = '"' :: more := rfl
      simp only [Json.Scan.members, still, scanned, skipSpaces_of_expect colon,
        value_of_null first null fuel, skipSpaces_of_expect closed, Option.bind_eq_bind,
          Option.bind_some]
    simp only [Scan.value, opened, quote]
    exact members
  · obtain ⟨⟨name, rest⟩, named, h⟩ := Option.bind_eq_some_iff.1 h
    obtain ⟨_, -, h⟩ := Option.bind_eq_some_iff.1 h
    cases h
    rw [readString_skipSpaces] at named
    exact value_of_readString named (fuel + 2)

/-- A document is the text of one value; where it is null there is none. -/
theorem raw_of_readDoc {doc : Option String} (h : readDoc cs = some (doc, rest)) :
    ∃ text, Scan.raw cs = some (text, rest) ∧ ∀ d, doc = some d → d.toList = text := by
  unfold readDoc at h
  split at h
  · rename_i more spaces
    obtain ⟨_, null, h⟩ := Option.bind_eq_some_iff.1 h
    cases h
    obtain ⟨text, raw⟩ := Json.Scan.exists_raw fun fuel => value_of_null spaces null (fuel + 2)
    exact ⟨text, raw, fun _ h => by cases h⟩
  · obtain ⟨⟨text, rest⟩, raw, h⟩ := Option.bind_eq_some_iff.1 h
    cases h
    unfold Scan.raw at raw ⊢
    rw [skipSpaces_idem] at raw
    exact ⟨text, raw, fun d h => by rw [← Option.some.inj h, String.toList_ofList]⟩

end Extent

/-! ## The text of a document -/

/-- The member of the name is written as the text, of those that stand from before the first name
on. -/
inductive MemberText (name : String) (text : List Char) : List Char → Prop
  | here {cs colon value rest : List Char} (named : readString cs = some (name, colon))
      (past : expect ':' colon = some value)
      (written : Scan.raw value = some (text, rest)) : MemberText name text cs
  | later {cs colon value passed rest next : List Char} {other : String}
      (named : readString cs = some (other, colon))
      (past : expect ':' colon = some value) (written : Scan.raw value = some (passed, rest))
      (comma : expect ',' rest = some next) (held : MemberText name text next) :
      MemberText name text cs

/-- The value of the name is written as the text, of those that stand in an array and are named in
turn. -/
inductive ItemText (name : String) (text : List Char) : List String → List Char → Prop
  | here {cs rest : List Char} {names : List String} (written : Scan.raw cs = some (text, rest)) :
      ItemText name text (name :: names) cs
  | later {cs passed rest next : List Char} {other : String} {names : List String}
      (written : Scan.raw cs = some (passed, rest)) (comma : expect ',' rest = some next)
      (held : ItemText name text names next) : ItemText name text (other :: names) cs

/-- The text of the document that a line holds. -/
inductive DocumentText (line text : List Char) : Prop
  | object {cs : List Char} (opened : expect '\x7b' line = some cs)
      (held : MemberText "doc" text cs)
  | array {cs : List Char} (opened : expect '[' line = some cs)
      (held : ItemText "doc" text ["id", "op", "doc"] cs)

theorem MemberText.text_infix {name : String} {text cs : List Char} (h : MemberText name text cs) :
    text <:+: cs := by
  induction h with
  | here named past written =>
    exact ((Json.Scan.raw_infix written).trans (expect_suffix past).isInfix).trans
      (readString_suffix named).isInfix
  | later named past written comma held ih =>
    exact (((ih.trans (expect_suffix comma).isInfix).trans
      (Json.Scan.raw_suffix written).isInfix).trans
      (expect_suffix past).isInfix).trans (readString_suffix named).isInfix

theorem ItemText.text_infix {name : String} {text cs : List Char} {names : List String}
    (h : ItemText name text names cs) :
    text <:+: cs := by
  induction h with
  | here written => exact Json.Scan.raw_infix written
  | later written comma held ih =>
    exact (ih.trans (expect_suffix comma).isInfix).trans (Json.Scan.raw_suffix written).isInfix

/-- **The document is part of its line,** character by character. -/
theorem DocumentText.text_infix {line text : List Char} (h : DocumentText line text) :
    text <:+: line := by
  cases h with
  | object opened held => exact held.text_infix.trans (expect_suffix opened).isInfix
  | array opened held => exact held.text_infix.trans (expect_suffix opened).isInfix

/-! ## One value -/

/-- What is read for a name is the text of one value. It is kept as the document for the name `doc`,
which is read once. -/
theorem document_of_readMember {m m' : Members} {name : String} {cs rest : List Char}
    (h : readMember m name cs = some (m', rest)) :
    ∃ text, Scan.raw cs = some (text, rest) ∧ (name ≠ "doc" → m'.doc = m.doc) ∧
      (name = "doc" → m.doc = none ∧ ∃ doc, m'.doc = some doc ∧ ∀ d, doc = some d →
        d.toList = text) := by
  unfold readMember at h
  split at h
  · split at h
    · cases h
    · obtain ⟨⟨id, rest⟩, read, h⟩ := Option.bind_eq_some_iff.1 h
      cases h
      obtain ⟨text, raw⟩ := Json.Scan.exists_raw fun fuel => value_of_readString read (fuel + 2)
      exact ⟨text, raw, fun _ => rfl, fun h => absurd h (by decide)⟩
  · split at h
    · cases h
    · obtain ⟨⟨op, rest⟩, read, h⟩ := Option.bind_eq_some_iff.1 h
      cases h
      obtain ⟨text, raw⟩ := Json.Scan.exists_raw (value_of_readKind read)
      exact ⟨text, raw, fun _ => rfl, fun h => absurd h (by decide)⟩
  · split at h
    · cases h
    · rename_i first
      obtain ⟨⟨doc, rest⟩, read, h⟩ := Option.bind_eq_some_iff.1 h
      cases h
      obtain ⟨text, raw, same⟩ := raw_of_readDoc read
      exact ⟨text, raw, fun h => absurd rfl h, fun _ => ⟨by simpa using first, doc, rfl, same⟩⟩
  · rename_i other
    obtain ⟨⟨text, rest⟩, raw, h⟩ := Option.bind_eq_some_iff.1 h
    cases h
    exact ⟨text, raw, fun _ => rfl, fun h => absurd h other⟩

/-- Reading on from some members to others, with the texts that documents have on the way: what is
kept at the end was kept before, and there is no other, or it is the one text on the way. -/
def Found (m m' : Members) (Text : List Char → Prop) : Prop :=
  ∀ d, m'.doc = some (some d) →
    (m.doc = some (some d) ∧ ∀ text, ¬ Text text) ∨
    (m.doc = none ∧ Text d.toList ∧ ∀ text, Text text → text = d.toList)

theorem Found.nothing (m : Members) : Found m m fun _ => False :=
  fun _ kept => .inl ⟨kept, fun _ h => h⟩

theorem Found.step {m m₁ m' : Members} {name : String} {cs rest passed : List Char}
    {Text Behind : List Char → Prop} (read : readMember m name cs = some (m₁, rest))
    (written : Scan.raw cs = some (passed, rest)) (behind : Found m₁ m' Behind)
    (texts : ∀ text, Text text ↔ (name = "doc" ∧ text = passed) ∨ Behind text) :
    Found m m' Text := by
  intro d kept
  obtain ⟨text, raw, others, doc⟩ := document_of_readMember read
  obtain ⟨rfl, -⟩ := Prod.mk.inj (Option.some.inj (written.symm.trans raw))
  by_cases named : name = "doc"
  · obtain ⟨first, doc, read, same⟩ := doc named
    rcases behind d kept with ⟨was, none⟩ | ⟨was, -⟩
    · have here : d.toList = passed := same d (Option.some.inj (read.symm.trans was))
      refine .inr ⟨first, (texts _).2 (.inl ⟨named, here⟩), fun text h => ?_⟩
      rcases (texts text).1 h with ⟨-, is⟩ | later
      · rw [is, here]
      · exact absurd later (none text)
    · rw [read] at was
      cases was
  · have same (text : List Char) : Text text ↔ Behind text :=
      (texts text).trans ⟨fun h => h.resolve_left fun ⟨is, _⟩ => named is, .inr⟩
    rw [← others named]
    rcases behind d kept with ⟨was, none⟩ | ⟨was, held, only⟩
    · exact .inl ⟨was, fun text h => none text ((same text).1 h)⟩
    · exact .inr ⟨was, (same _).2 held, fun text h => only text ((same text).1 h)⟩

/-! ## All values -/

theorem memberText_iff {name other : String} {text cs colon value passed rest : List Char}
    (named : readString cs = some (other, colon)) (past : expect ':' colon = some value)
    (written : Scan.raw value = some (passed, rest)) :
    MemberText name text cs ↔
      (other = name ∧ text = passed) ∨ ∃ next, expect ',' rest = some next ∧
        MemberText name text next := by
  constructor
  · intro h
    cases h with
    | here named' past' written' =>
      obtain ⟨rfl, rfl⟩ := Prod.mk.inj (Option.some.inj (named'.symm.trans named))
      obtain rfl := Option.some.inj (past'.symm.trans past)
      exact .inl ⟨rfl, (Prod.mk.inj (Option.some.inj (written'.symm.trans written))).1⟩
    | later named' past' written' comma held =>
      obtain ⟨rfl, rfl⟩ := Prod.mk.inj (Option.some.inj (named'.symm.trans named))
      obtain rfl := Option.some.inj (past'.symm.trans past)
      obtain ⟨rfl, rfl⟩ := Prod.mk.inj (Option.some.inj (written'.symm.trans written))
      exact .inr ⟨_, comma, held⟩
  · rintro (⟨rfl, rfl⟩ | ⟨next, comma, held⟩)
    · exact .here named past written
    · exact .later named past written comma held

theorem itemText_iff {name other : String} {names : List String} {text cs passed rest : List Char}
    (written : Scan.raw cs = some (passed, rest)) :
    ItemText name text (other :: names) cs ↔
      (other = name ∧ text = passed) ∨ ∃ next, expect ',' rest = some next ∧
        ItemText name text names next := by
  constructor
  · intro h
    cases h with
    | here written' =>
      exact .inl ⟨rfl, (Prod.mk.inj (Option.some.inj (written'.symm.trans written))).1⟩
    | later written' comma held =>
      obtain ⟨rfl, rfl⟩ := Prod.mk.inj (Option.some.inj (written'.symm.trans written))
      exact .inr ⟨_, comma, held⟩
  · rintro (⟨rfl, rfl⟩ | ⟨next, comma, held⟩)
    · exact .here written
    · exact .later written comma held

theorem expect_eq_some_iff {c : Char} {cs rest : List Char} :
    expect c cs = some rest ↔ skipSpaces cs = c :: rest := by
  refine ⟨skipSpaces_of_expect, fun h => ?_⟩
  unfold expect
  rw [h]
  exact if_pos rfl

theorem found_of_readMembers {fuel : Nat} {m m' : Members} {cs rest : List Char}
    (h : readMembers fuel m cs = some (m', rest)) :
    Found m m' fun text => MemberText "doc" text cs := by
  induction fuel generalizing m cs with
  | zero => cases h
  | succ fuel ih =>
    rw [readMembers] at h
    obtain ⟨⟨name, colon⟩, named, h⟩ := Option.bind_eq_some_iff.1 h
    obtain ⟨value, past, h⟩ := Option.bind_eq_some_iff.1 h
    obtain ⟨⟨m₁, behind⟩, read, h⟩ := Option.bind_eq_some_iff.1 h
    obtain ⟨passed, written, -⟩ := document_of_readMember read
    dsimp only at h
    split at h
    · rename_i next comma
      refine Found.step read written (ih h) fun text => (memberText_iff named past written).trans
        (or_congr_right ?_)
      simp only [expect_eq_some_iff, comma]
      simp
    · rename_i closed
      cases h
      refine Found.step read written (.nothing _) fun text =>
        (memberText_iff named past written).trans (or_congr_right ?_)
      simp only [expect_eq_some_iff, closed]
      simp
    · cases h

theorem found_of_readItems {names : List String} {m m' : Members} {cs rest : List Char}
    (h : readItems names m cs = some (m', rest)) :
    Found m m' fun text => ItemText "doc" text names cs := by
  induction names generalizing m cs with
  | nil => cases h
  | cons name names ih =>
    rw [readItems] at h
    obtain ⟨⟨m₁, behind⟩, read, h⟩ := Option.bind_eq_some_iff.1 h
    obtain ⟨passed, written, -⟩ := document_of_readMember read
    dsimp only at h
    split at h
    · rename_i next comma
      refine Found.step read written (ih h) fun text =>
        (itemText_iff written).trans (or_congr_right ?_)
      simp only [expect_eq_some_iff, comma]
      simp
    · rename_i closed
      cases h
      refine Found.step read written (.nothing _) fun text =>
        (itemText_iff written).trans (or_congr_right ?_)
      simp only [expect_eq_some_iff, closed]
      simp
    · cases h

theorem memberText_skipSpaces {name : String} {text cs : List Char} :
    MemberText name text (skipSpaces cs) ↔ MemberText name text cs := by
  have same := readString_skipSpaces cs
  constructor
  · intro h
    cases h with
    | here named past written => exact .here (same.symm.trans named) past written
    | later named past written comma held =>
      exact .later (same.symm.trans named) past written comma held
  · intro h
    cases h with
    | here named past written => exact .here (same.trans named) past written
    | later named past written comma held => exact .later (same.trans named) past written comma held

theorem documentText_object {line cs text : List Char} (opened : skipSpaces line = '\x7b' :: cs) :
    DocumentText line text ↔ MemberText "doc" text cs := by
  refine ⟨fun h => ?_, fun h => .object (expect_eq_some_iff.2 opened) h⟩
  cases h with
  | object opened' held =>
    cases (skipSpaces_of_expect opened').symm.trans opened
    exact held
  | array opened' held => cases (skipSpaces_of_expect opened').symm.trans opened

theorem documentText_array {line cs text : List Char} (opened : skipSpaces line = '[' :: cs) :
    DocumentText line text ↔ ItemText "doc" text ["id", "op", "doc"] cs := by
  refine ⟨fun h => ?_, fun h => .array (expect_eq_some_iff.2 opened) h⟩
  cases h with
  | object opened' held => cases (skipSpaces_of_expect opened').symm.trans opened
  | array opened' held =>
    cases (skipSpaces_of_expect opened').symm.trans opened
    exact held

/-- What is kept of a whole line as its document is the one text of its document. -/
theorem found_of_readLine {line : List Char} {m : Members} (h : readLine line = some m) :
    Found {} m (DocumentText line) := by
  have ending {m₁ : Members} {rest : List Char}
    (h : (if (skipSpaces rest).isEmpty then some m₁ else none) = some m) :
      m₁ = m := by
    split at h
    · exact Option.some.inj h
    · cases h
  unfold readLine at h
  dsimp only at h
  split at h
  · rename_i inner opened
    split at h
    · obtain rfl := ending h
      intro d kept
      cases kept
    · obtain ⟨⟨m₁, rest⟩, read, h⟩ := Option.bind_eq_some_iff.1 h
      obtain rfl := ending h
      have texts : DocumentText line = fun text => MemberText "doc" text (skipSpaces inner) :=
        funext fun _ => propext ((documentText_object opened).trans memberText_skipSpaces.symm)
      rw [texts]
      exact found_of_readMembers read
  · rename_i inner opened
    obtain ⟨⟨m₁, rest⟩, read, h⟩ := Option.bind_eq_some_iff.1 h
    obtain rfl := ending h
    rw [show DocumentText line = _ from funext fun _ => propext (documentText_array opened)]
    exact found_of_readItems read
  · cases h

/-- **The document of a record is the text of the document of its line,** the only one, and a record
that deletes has none. -/
theorem document_of_parse {line : String} {r : Record} (h : parse line = .ok r) :
    (r.op = .delete → r.doc = none) ∧
    (r.op ≠ .delete → ∃ doc, r.doc = some doc ∧ DocumentText line.toList doc.toList ∧
      ∀ text, DocumentText line.toList text → text = doc.toList) := by
  unfold parse at h
  split at h
  · cases h
  · cases h
  · rename_i id op doc read
    dsimp only at h
    split at h
    · cases h
    · split at h
      · rename_i deletes
        cases h
        exact ⟨fun _ => rfl, fun other => absurd deletes other⟩
      · rename_i other
        split at h
        · rename_i d kept
          cases h
          have kept : doc = some (some d) := by
            cases doc with
            | none => cases kept
            | some doc => exact congrArg some kept
          rcases found_of_readLine read d kept with ⟨was, -⟩ | ⟨-, held, only⟩
          · cases was
          · exact ⟨fun deletes => absurd deletes other, fun _ => ⟨d, rfl, held, only⟩⟩
        · cases h

end Reindex.Record
