import Mathlib.Data.List.Forall2
import Reindex.Proofs.Record.Writing

/-!
# Lines with an object

A line with an object is a record exactly if its members write one: an identifier that is not empty,
a kind at most once, and a document unless the kind deletes, in any order and among any others, with
any spaces between them. The record has the identifier that is spelled, and the document character
by character. The name of a member may be any string of JSON, but it has to spell a text: a
surrogate that is escaped on its own spells none, and a line with such a name is no record.

Main statements: `Record.parse_eq_ok_of_objectLine` and `Record.parse_eq_error_of_objectLine`.
-/

namespace Reindex.Record

open Json (Blank Item Member ValueText Content Spells Separated quoted nullText skipSpaces_blank
  skipSpaces_eq_nil_iff
  closers)
open Json.Reader (skipSpaces skipSpaces_of_visible)

/-! ## Objects -/

/-- Members as they stand between the braces of an object. -/
structure ObjectBody (ms : List Member) (body : List Char) : Prop where
  separated : Separated Member.text ms body
  spaced : ∀ m ∈ ms, m.Spaced
  keys : ∀ m ∈ ms, Content m.key
  valid : ∀ m ∈ ms, ValueText m.held.value

/-- A line that begins with an object, and what comes behind it. -/
def ObjectLine (line : List Char) (ms : List Member) (behind : List Char) : Prop :=
  ∃ s body, Blank s ∧ ObjectBody ms body ∧ line = s ++ '\x7b' :: (body ++ '\x7d' :: behind)

/-- The values that members hold, each under the name that is spelled in front of it. -/
def Named (ms : List Member) (vs : List (String × List Char)) : Prop :=
  ms.Forall₂ (fun m v => Spells m.key v.1.toList ∧ v.2 = m.held.value) vs

/-- The name of a member spells no text. -/
def Nameless (m : Member) : Prop := ∀ name : String, ¬ Spells m.key name.toList

section Names

variable {m : Member} {ms : List Member} {vs vs' : List (String × List Char)}

theorem named_nil : Named [] vs ↔ vs = [] := List.forall₂_nil_left_iff

theorem named_cons : Named (m :: ms) vs ↔
    ∃ name vs', Spells m.key name.toList ∧ Named ms vs' ∧ vs = (name, m.held.value) :: vs' := by
  refine List.forall₂_cons_left_iff.trans ⟨?_, ?_⟩
  · rintro ⟨⟨name, _⟩, vs', ⟨spelled, rfl⟩, named, rfl⟩
    exact ⟨name, vs', spelled, named, rfl⟩
  · rintro ⟨name, vs', spelled, named, rfl⟩
    exact ⟨_, vs', ⟨spelled, rfl⟩, named, rfl⟩

theorem Named.unique (h : Named ms vs) (h' : Named ms vs') : vs = vs' := by
  induction ms generalizing vs vs' with
  | nil => rw [named_nil.1 h, named_nil.1 h']
  | cons m ms ih =>
    obtain ⟨name, rest, spelled, named, rfl⟩ := named_cons.1 h
    obtain ⟨name', rest', spelled', named', rfl⟩ := named_cons.1 h'
    have same : name = name' :=
      understands_string.unique ⟨m.key, spelled, rfl⟩ ⟨m.key, spelled', rfl⟩
    rw [same, ih named named']

/-- All members have names, or one of them has none. -/
theorem not_exists_named_iff : (¬ ∃ vs, Named ms vs) ↔ ∃ m ∈ ms, Nameless m := by
  induction ms with
  | nil => simp [named_nil]
  | cons m ms ih =>
    rw [List.exists_mem_cons_iff, ← ih, ← not_iff_not]
    simp only [Nameless, not_not, not_or, not_forall, named_cons]
    constructor
    · rintro ⟨_, name, vs, spelled, named, rfl⟩
      exact ⟨⟨name, spelled⟩, vs, named⟩
    · rintro ⟨⟨name, spelled⟩, vs, named⟩
      exact ⟨_, name, vs, spelled, named, rfl⟩

end Names

section Objects

variable {fuel : Nat} {m m' : Members} {left rest : List Char}

/-- Going on behind the value of a member, from what it adds. -/
theorem readMember_bind {name : String} {i : Item} (spaced : i.Spaced) (valid : ValueText i.value)
    {close : Char} (closes : close ∈ closers)
    {next : Members × List Char → Option (Members × List Char)} {read : Members × List Char} :
    (readMember m name (i.text ++ close :: rest)).bind next = some read ↔
      ∃ m₁, Adds m name i.value m₁ ∧ next (m₁, i.after ++ close :: rest) = some read := by
  simp only [Option.bind_eq_some_iff, Prod.exists, readMember_item spaced valid closes]
  constructor
  · rintro ⟨m₁, left, ⟨adds, rfl⟩, goes⟩
    exact ⟨m₁, adds, goes⟩
  · rintro ⟨m₁, adds, goes⟩
    exact ⟨m₁, _, ⟨adds, rfl⟩, goes⟩

/-- The name of a member is read if it spells a text. -/
theorem readString_member {p : Member} (spaced : p.Spaced) (key : Content p.key) {name : String} :
    readString (p.text ++ rest) = some (name, left) ↔
      Spells p.key name.toList ∧ left = p.behind ++ ':' :: (p.held.text ++ rest) := by
  rw [readString_eq_some_iff, spaced.skipSpaces_text]
  constructor
  · rintro ⟨content, spelled, stands⟩
    simp only [quoted, List.cons_append, List.append_assoc, List.nil_append, List.cons.injEq,
      true_and] at stands
    obtain ⟨rfl, rfl⟩ := Json.Scan.content_unique key spelled.content stands
    exact ⟨spelled, rfl⟩
  · rintro ⟨spelled, rfl⟩
    exact ⟨p.key, spelled, by simp [quoted]⟩

theorem readMembers_member {p : Member} (spaced : p.Spaced) (key : Content p.key)
    (valid : ValueText p.held.value) {close : Char} (closes : close ∈ closers)
    {read : Members × List Char} :
    readMembers (fuel + 1) m (p.text ++ close :: rest) = some read ↔
      ∃ name, Spells p.key name.toList ∧ ∃ m₁, Adds m name p.held.value m₁ ∧
        (match close :: rest with
        | ',' :: rest => readMembers fuel m₁ rest
        | '\x7d' :: rest => some (m₁, rest)
        | _ => none) = some read := by
  have colon := expect_eq_some_iff.2 (spaced.skipSpaces_colon (p.held.text ++ close :: rest))
  simp only [readMembers, Option.bind_eq_bind]
  rw [Option.bind_eq_some_iff]
  simp only [Prod.exists, readString_member spaced key]
  constructor
  · rintro ⟨name, _, ⟨spelled, rfl⟩, goes⟩
    rw [colon, Option.bind_some, readMember_bind spaced.2.2 valid closes] at goes
    obtain ⟨m₁, adds, goes⟩ := goes
    simp only [spaced.2.2.2.skipSpaces_close closes] at goes
    exact ⟨name, spelled, m₁, adds, goes⟩
  · rintro ⟨name, spelled, m₁, adds, goes⟩
    refine ⟨name, _, ⟨spelled, rfl⟩, ?_⟩
    rw [colon, Option.bind_some, readMember_bind spaced.2.2 valid closes]
    refine ⟨m₁, adds, ?_⟩
    simp only [spaced.2.2.2.skipSpaces_close closes]
    exact goes

/-- What is read of the members between braces. -/
theorem readMembers_eq_some_iff {ms : List Member} {body : List Char} (h : ObjectBody ms body)
    (given : ms ≠ []) (enough : ms.length ≤ fuel) :
    readMembers fuel m (body ++ '\x7d' :: rest) = some (m', left) ↔
      (∃ vs, Named ms vs ∧ Kept vs m m') ∧ left = rest := by
  obtain ⟨separated, spaced, keys, valid⟩ := h
  induction separated generalizing fuel m with
  | none => exact absurd rfl given
  | one p =>
    obtain ⟨fuel, rfl⟩ : ∃ n, fuel = n + 1 := ⟨fuel - 1, by simp at enough; omega⟩
    rw [readMembers_member (spaced p (.head _)) (keys p (.head _)) (valid p (.head _)) (by decide)]
    simp only [named_cons, named_nil, Option.some.injEq, Prod.mk.injEq]
    constructor
    · rintro ⟨name, spelled, m₁, adds, rfl, rfl⟩
      exact ⟨⟨_, ⟨name, [], spelled, rfl, rfl⟩, kept_cons.2 ⟨_, adds, kept_nil.2 rfl⟩⟩, rfl⟩
    · rintro ⟨⟨_, ⟨name, _, spelled, rfl, rfl⟩, kept⟩, rfl⟩
      obtain ⟨m₁, adds, rest⟩ := kept_cons.1 kept
      exact ⟨name, spelled, m₁, adds, (kept_nil.1 rest).symm, rfl⟩
  | @more p q ps body _ ih =>
    obtain ⟨fuel, rfl⟩ : ∃ n, fuel = n + 1 := ⟨fuel - 1, by simp at enough; omega⟩
    have behind (m₁ : Members) : readMembers fuel m₁ (body ++ '\x7d' :: rest) = some (m', left) ↔
        (∃ vs, Named (q :: ps) vs ∧ Kept vs m₁ m') ∧ left = rest :=
      ih (List.cons_ne_nil _ _) (by simpa using enough) (fun m hm => spaced m (.tail _ hm))
        (fun m hm => keys m (.tail _ hm)) (fun m hm => valid m (.tail _ hm))
    rw [List.append_assoc, List.cons_append,
      readMembers_member (spaced p (.head _)) (keys p (.head _)) (valid p (.head _)) (by decide)]
    simp only [behind]
    constructor
    · rintro ⟨name, spelled, m₁, adds, ⟨vs, named, kept⟩, rfl⟩
      exact ⟨⟨_, named_cons.2 ⟨name, vs, spelled, named, rfl⟩, kept_cons.2 ⟨m₁, adds, kept⟩⟩, rfl⟩
    · rintro ⟨⟨_, all, kept⟩, rfl⟩
      obtain ⟨name, vs, spelled, named, rfl⟩ := named_cons.1 all
      obtain ⟨m₁, adds, kept⟩ := kept_cons.1 kept
      exact ⟨name, spelled, m₁, adds, ⟨vs, named, kept⟩, rfl⟩

theorem readMembers_skipSpaces (fuel : Nat) (m : Members) (cs : List Char) :
    readMembers fuel m (skipSpaces cs) = readMembers fuel m cs := by
  cases fuel with
  | zero => rfl
  | succ fuel => rw [readMembers, readMembers, readString_skipSpaces]

/-- There are no more members than characters from the first of them on. -/
theorem ObjectBody.length_le {ms : List Member} {body : List Char} (h : ObjectBody ms body)
    (rest : List Char) :
    ms.length ≤ (skipSpaces (body ++ rest)).length := by
  obtain ⟨separated, spaced, -, -⟩ := h
  cases separated with
  | none => exact Nat.zero_le _
  | one p =>
    rw [(spaced p (.head _)).skipSpaces_text]
    simp
  | @more p q ps body separated =>
    have others := separated.length_le fun p : Member => by
      simp only [Member.text, quoted, List.length_append, List.length_cons]
      omega
    rw [List.append_assoc, (spaced p (.head _)).skipSpaces_text]
    simp only [List.length_cons, List.length_append] at others ⊢
    omega

end Objects

/-! ## Lines -/

/-- Behind what fills a line only spaces may come. -/
def ending (read : Members × List Char) : Option Members :=
  if (skipSpaces read.2).isEmpty then some read.1 else none

theorem ending_eq_some_iff {m m' : Members} {rest : List Char} :
    ending (m, rest) = some m' ↔ Blank rest ∧ m' = m := by
  rw [ending, Option.ite_none_right_eq_some, List.isEmpty_iff, skipSpaces_eq_nil_iff,
    Option.some.injEq, eq_comm (a := m)]

theorem readLine_of_closed {cs inner rest : List Char} (opened : skipSpaces cs = '\x7b' :: inner)
    (closed : skipSpaces inner = '\x7d' :: rest) : readLine cs = ending ({}, rest) := by
  unfold readLine
  simp only [opened, closed]
  rfl

theorem readLine_of_members {cs inner : List Char} (opened : skipSpaces cs = '\x7b' :: inner)
    (unclosed : ∀ rest, skipSpaces inner ≠ '\x7d' :: rest) :
    readLine cs = (readMembers ((skipSpaces inner).length + 1) {} inner).bind ending := by
  unfold readLine
  simp only [opened, readMembers_skipSpaces]
  rfl

section Lines

variable {behind : List Char} {ms : List Member}

theorem readLine_object {line : List Char} (h : ObjectLine line ms behind) {m : Members} :
    readLine line = some m ↔ Blank behind ∧ ∃ vs, Named ms vs ∧ Kept vs {} m := by
  obtain ⟨s, body, blank, held, rfl⟩ := h
  have opened : skipSpaces (s ++ '\x7b' :: (body ++ '\x7d' :: behind)) =
    '\x7b' :: (body ++ '\x7d' :: behind) := by
    rw [skipSpaces_blank blank, skipSpaces_of_visible rfl]
  cases ms with
  | nil =>
    have closed : skipSpaces (body ++ '\x7d' :: behind) = '\x7d' :: behind := by
      cases held.separated with
      | none blank => exact blank.skipSpaces_close (by decide) behind
    rw [readLine_of_closed opened closed, ending_eq_some_iff]
    simp only [named_nil, exists_eq_left, kept_nil]
  | cons p ps =>
    have unclosed : ∀ rest, skipSpaces (body ++ '\x7d' :: behind) ≠ '\x7d' :: rest := by
      intro rest closed
      obtain ⟨tail, rfl⟩ := held.separated.front
      rw [List.append_assoc, (held.spaced p (.head _)).skipSpaces_text] at closed
      cases closed
    have enough := Nat.le_succ_of_le (held.length_le ('\x7d' :: behind))
    rw [readLine_of_members opened unclosed]
    simp only [Option.bind_eq_some_iff, Prod.exists,
      readMembers_eq_some_iff held (List.cons_ne_nil p ps) enough, ending_eq_some_iff]
    constructor
    · rintro ⟨m₁, rest, ⟨kept, rfl⟩, spaces, rfl⟩
      exact ⟨spaces, kept⟩
    · rintro ⟨spaces, kept⟩
      exact ⟨m, behind, ⟨kept, rfl⟩, spaces, rfl⟩

variable {line : String}

/-- **A line with an object is a record** exactly if its members have names and write one, and only
spaces come behind it. -/
theorem parse_eq_ok_of_objectLine (h : ObjectLine line.toList ms behind) (r : Record) :
    parse line = .ok r ↔ Blank behind ∧ ∃ vs, Named ms vs ∧ Writes vs r := by
  rw [parse_eq_ok_iff]
  simp only [writes_iff, readLine_object h]
  constructor
  · rintro ⟨m, ⟨spaces, vs, named, kept⟩, gives⟩
    exact ⟨spaces, vs, named, m, kept, gives⟩
  · rintro ⟨spaces, vs, named, m, kept, gives⟩
    exact ⟨m, ⟨spaces, vs, named, kept⟩, gives⟩

/-- **A line with an object is refused** for something that comes behind it, for a member without a
name, and for what keeps its values from writing a record, and for nothing else. -/
theorem parse_eq_error_of_objectLine (h : ObjectLine line.toList ms behind) :
    (∃ fault, parse line = .error fault) ↔
      ¬ Blank behind ∨ (∃ m ∈ ms, Nameless m) ∨ ∃ vs, Named ms vs ∧ Defect vs := by
  have refused : (∃ fault, parse line = .error fault) ↔ ¬ ∃ r, parse line = .ok r := by
    cases parse line <;> simp
  rw [refused, ← not_exists_named_iff]
  simp only [parse_eq_ok_of_objectLine h, exists_and_left, not_and_or]
  refine or_congr_right ?_
  constructor
  · intro unwritten
    by_cases all : ∃ vs, Named ms vs
    · obtain ⟨vs, named⟩ := all
      exact .inr ⟨vs, named, not_exists_writes_iff.1 fun ⟨r, writes⟩ =>
        unwritten ⟨r, vs, named, writes⟩⟩
    · exact .inl all
  · rintro (nameless | ⟨vs, named, defect⟩) ⟨r, vs', named', writes⟩
    · exact nameless ⟨vs', named'⟩
    · exact not_writes_of_defect defect r (named.unique named' ▸ writes)

end Lines

end Reindex.Record
