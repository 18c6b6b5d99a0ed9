import Mathlib.Data.List.TakeWhile
import Reindex.Proofs.Json.Numerals

/-!
# The texts of JSON values

What a JSON text is, as RFC 8259 has it and without regard to what it means: words, numbers,
strings, arrays and objects, with spaces between their parts. Numbers may have any size, values may
nest to any depth, and an escaped surrogate may stand alone.

Main definition: `Json.ValueText`.
-/

namespace Reindex.Json

open Reader (isSpace isDigit hex4? shortEscape? skipSpaces Ends ends_cons ends_nil isNumeric
  skipSpaces_of_visible)

/-! ## Texts -/

def Blank (cs : List Char) : Prop := ∀ c ∈ cs, isSpace c = true

/-- The characters at hand are looked at, not those that there are. -/
instance : DecidablePred Blank := fun cs => List.decidableBAll (isSpace · = true) cs

def Digits (cs : List Char) : Prop := cs ≠ [] ∧ ∀ c ∈ cs, isDigit c = true

inductive FractionText : List Char → Prop
  | none : FractionText []
  | some {ds : List Char} (digits : Digits ds) : FractionText ('.' :: ds)

inductive ExponentText : List Char → Prop
  | none : ExponentText []
  | some {e : Char} {sign ds : List Char} (letter : e ∈ ['e', 'E'])
      (signed : sign ∈ [[], ['+'], ['-']]) (digits : Digits ds) :
    ExponentText (e :: (sign ++ ds))

/-- A number without its sign. A zero in front of other digits is not allowed. -/
inductive Unsigned : List Char → Prop
  | mk {whole fraction exponent : List Char} (digits : Digits whole)
      (zero : whole.head? = some '0' → whole = ['0']) (fractional : FractionText fraction)
      (scaled : ExponentText exponent) :
    Unsigned (whole ++ (fraction ++ exponent))

/-- What may stand between the quotes of a string. -/
inductive Content : List Char → Prop
  | nil : Content []
  | plain {c : Char} {cs : List Char} (quote : c ≠ '"') (backslash : c ≠ '\\')
      (visible : ¬ c.toNat < 0x20)
    (rest : Content cs) : Content (c :: cs)
  | short {e c : Char} {cs : List Char} (escape : shortEscape? e = some c) (rest : Content cs) :
      Content ('\\' :: e :: cs)
  | hex {a b c d : Char} {n : Nat} {cs : List Char} (escape : hex4? a b c d = some n)
      (rest : Content cs) :
    Content ('\\' :: 'u' :: a :: b :: c :: d :: cs)

/-- A text between quotes. -/
def quoted (cs : List Char) : List Char := '"' :: (cs ++ ['"'])

/-- A value and the spaces around it. -/
structure Item where
  before : List Char
  value : List Char
  after : List Char
deriving DecidableEq, Repr

/-- A name, between quotes, and the value behind the colon. -/
structure Member where
  before : List Char
  key : List Char
  behind : List Char
  held : Item
deriving DecidableEq, Repr

namespace Item

def text (i : Item) : List Char := i.before ++ (i.value ++ i.after)

def Spaced (i : Item) : Prop := Blank i.before ∧ Blank i.after
deriving Decidable

end Item

namespace Member

def text (m : Member) : List Char := m.before ++ (quoted m.key ++ (m.behind ++ ':' :: m.held.text))

def Spaced (m : Member) : Prop := Blank m.before ∧ Blank m.behind ∧ m.held.Spaced
deriving Decidable

end Member

/-- Texts with commas between them; none of them are spaces. -/
inductive Separated {α : Type} (text : α → List Char) : List α → List Char → Prop
  | none {cs : List Char} (blank : Blank cs) : Separated text [] cs
  | one (x : α) : Separated text [x] (text x)
  | more (x : α) {y : α} {ys : List α} {cs : List Char} (rest : Separated text (y :: ys) cs) :
    Separated text (x :: y :: ys) (text x ++ ',' :: cs)

theorem Separated.front {α : Type} {text : α → List Char} {x : α} {xs : List α} {cs : List Char}
    (h : Separated text (x :: xs) cs) : ∃ tail, cs = text x ++ tail := by
  cases h with
  | one => exact ⟨[], (List.append_nil _).symm⟩
  | more => exact ⟨_, rfl⟩

theorem Separated.length_le {α : Type} {text : α → List Char} {xs : List α} {cs : List Char}
    (h : Separated text xs cs) (given : ∀ x, 0 < (text x).length) : xs.length ≤ cs.length := by
  induction h with
  | none => exact Nat.zero_le _
  | one x => exact given x
  | more x _ ih =>
    simp only [List.length_append, List.length_cons] at ih ⊢
    omega

def nullText : List Char := ['n', 'u', 'l', 'l']

/-- The text of a value, without spaces around it. -/
inductive ValueText : List Char → Prop
  | word {text : List Char}
      (known : text ∈ [nullText, ['t', 'r', 'u', 'e'], ['f', 'a', 'l', 's', 'e']]) : ValueText text
  | number {text : List Char} (unsigned : Unsigned text) : ValueText text
  | negative {text : List Char} (unsigned : Unsigned text) : ValueText ('-' :: text)
  | string {content : List Char} (escaped : Content content) : ValueText (quoted content)
  | array {items : List Item} {body : List Char} (listed : Separated Item.text items body)
      (spaced : ∀ i ∈ items, i.Spaced)
    (values : ∀ i ∈ items, ValueText i.value) : ValueText ('[' :: (body ++ [']']))
  | object {members : List Member} {body : List Char} (listed : Separated Member.text members body)
    (spaced : ∀ m ∈ members, m.Spaced) (keys : ∀ m ∈ members, Content m.key)
    (values : ∀ m ∈ members, ValueText m.held.value) : ValueText ('\x7b' :: (body ++ ['\x7d']))

/-- What stands between the brackets of an array that is not empty. -/
def ItemsText (body : List Char) : Prop :=
  ∃ is, is ≠ [] ∧ Separated Item.text is body ∧ ∀ i ∈ is, i.Spaced ∧ ValueText i.value

/-- What stands between the braces of an object that is not empty. -/
def MembersText (body : List Char) : Prop :=
  ∃ ms, ms ≠ [] ∧ Separated Member.text ms body ∧ ∀ m ∈ ms, m.Spaced ∧ Content m.key ∧
    ValueText m.held.value

section Bodies

variable {body : List Char}

theorem ItemsText.one {i : Item} (spaced : i.Spaced) (valid : ValueText i.value) :
    ItemsText i.text :=
  ⟨[i], List.cons_ne_nil _ _, .one i, List.forall_mem_singleton.2 ⟨spaced, valid⟩⟩

theorem ItemsText.cons {i : Item} (spaced : i.Spaced) (valid : ValueText i.value)
    (h : ItemsText body) :
    ItemsText (i.text ++ ',' :: body) := by
  obtain ⟨is, given, separated, all⟩ := h
  obtain ⟨j, is, rfl⟩ := List.exists_cons_of_ne_nil given
  exact ⟨_, List.cons_ne_nil _ _, .more i separated, List.forall_mem_cons.2 ⟨⟨spaced, valid⟩, all⟩⟩

theorem ItemsText.array (h : ItemsText body) : ValueText ('[' :: (body ++ [']'])) := by
  obtain ⟨is, -, separated, all⟩ := h
  exact .array separated (fun i hi => (all i hi).1) fun i hi => (all i hi).2

theorem MembersText.one {m : Member} (spaced : m.Spaced) (key : Content m.key)
    (valid : ValueText m.held.value) :
    MembersText m.text :=
  ⟨[m], List.cons_ne_nil _ _, .one m, List.forall_mem_singleton.2 ⟨spaced, key, valid⟩⟩

theorem MembersText.cons {m : Member} (spaced : m.Spaced) (key : Content m.key)
    (valid : ValueText m.held.value) (h : MembersText body) :
    MembersText (m.text ++ ',' :: body) := by
  obtain ⟨ms, given, separated, all⟩ := h
  obtain ⟨n, ms, rfl⟩ := List.exists_cons_of_ne_nil given
  exact ⟨_, List.cons_ne_nil _ _, .more m separated,
    List.forall_mem_cons.2 ⟨⟨spaced, key, valid⟩, all⟩⟩

theorem MembersText.object (h : MembersText body) : ValueText ('\x7b' :: (body ++ ['\x7d'])) := by
  obtain ⟨ms, -, separated, all⟩ := h
  exact .object separated (fun m hm => (all m hm).1) (fun m hm => (all m hm).2.1) fun m hm =>
    (all m hm).2.2

theorem ValueText.emptyArray {s : List Char} (blank : Blank s) : ValueText ('[' :: (s ++ [']'])) :=
  .array (.none blank) (fun _ h => absurd h List.not_mem_nil) fun _ h => absurd h List.not_mem_nil

theorem ValueText.emptyObject {s : List Char} (blank : Blank s) :
    ValueText ('\x7b' :: (s ++ ['\x7d'])) :=
  .object (.none blank) (fun _ h => absurd h List.not_mem_nil)
    (fun _ h => absurd h List.not_mem_nil)
    fun _ h => absurd h List.not_mem_nil

end Bodies

/-! ## Spaces -/

section Spaces

variable {s cs rest : List Char}

theorem Blank.nil : Blank [] := fun _ h => absurd h List.not_mem_nil

theorem skipSpaces_blank (blank : Blank s) (cs : List Char) :
    skipSpaces (s ++ cs) = skipSpaces cs :=
  List.dropWhile_append_of_pos blank

theorem exists_blank (cs : List Char) : ∃ s, Blank s ∧ cs = s ++ skipSpaces cs :=
  ⟨cs.takeWhile isSpace, fun _ h => List.mem_takeWhile_imp h, List.takeWhile_append_dropWhile.symm⟩

/-- What begins behind some spaces. -/
theorem exists_blank_of_skipSpaces (h : skipSpaces cs = rest) : ∃ s, Blank s ∧ cs = s ++ rest :=
  h ▸ exists_blank cs

theorem skipSpaces_eq_nil_iff : skipSpaces cs = [] ↔ Blank cs := by
  rw [skipSpaces, List.dropWhile_eq_nil_iff]
  rfl

/-- Spaces do not go on with a number. -/
theorem Blank.ends (blank : Blank s) (ends : Ends rest) : Ends (s ++ rest) := by
  cases s with
  | nil => exact ends
  | cons c s =>
    rw [List.cons_append, ends_cons, Bool.eq_false_iff]
    intro numeric
    have space := blank c (.head _)
    rw [Reader.isSpace_of_numeric numeric] at space
    cases space

/-- What comes behind the value of an item or of a member. -/
def closers : List Char := [',', ']', '\x7d']

theorem plain_of_closers {close : Char} (closes : close ∈ closers) :
    isNumeric close = false ∧ isSpace close = false := by
  simp only [closers, List.mem_cons, List.not_mem_nil, or_false] at closes
  rcases closes with rfl | rfl | rfl <;> exact ⟨rfl, rfl⟩

theorem Blank.ends_close (blank : Blank s) {close : Char} (closes : close ∈ closers)
    (rest : List Char) :
    Ends (s ++ close :: rest) :=
  blank.ends (ends_cons.2 (plain_of_closers closes).1)

theorem Blank.skipSpaces_close (blank : Blank s) {close : Char} (closes : close ∈ closers)
    (rest : List Char) :
    skipSpaces (s ++ close :: rest) = close :: rest := by
  rw [skipSpaces_blank blank, skipSpaces_of_visible (plain_of_closers closes).2]

/-- A member begins with the quote of its name. -/
theorem Member.Spaced.skipSpaces_text {m : Member} (h : m.Spaced) (cs : List Char) :
    skipSpaces (m.text ++ cs) =
      '"' :: (m.key ++ '"' :: (m.behind ++ ':' :: (m.held.text ++ cs))) := by
  simp only [Member.text, quoted, List.append_assoc, List.cons_append, List.nil_append]
  rw [skipSpaces_blank h.1, skipSpaces_of_visible rfl]

theorem Member.Spaced.skipSpaces_colon {m : Member} (h : m.Spaced) (cs : List Char) :
    skipSpaces (m.behind ++ ':' :: cs) = ':' :: cs := by
  rw [skipSpaces_blank h.2.1, skipSpaces_of_visible rfl]

end Spaces

end Reindex.Json
