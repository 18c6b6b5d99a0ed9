import Reindex.Proofs.Record.Values

/-!
# The record that named values write

Values are read one after another, each under its name: one identifier, which is not empty, at most
one kind, and one document unless the kind deletes. Values under other names are passed over.

Main statements: `Record.parse_eq_ok_iff` and `Record.writes_iff`, by which a record is what its
values write, and `Record.not_exists_writes_iff`, which lists what keeps values from writing one.
-/

namespace Reindex.Record

open Json (Item ValueText nullText)

/-! ## What members write -/

/-- The texts that stand under a name. -/
def valuesOf (name : String) (vs : List (String × List Char)) : List (List Char) :=
  (vs.filter (·.1 = name)).map (·.2)

/-- The record that named values write. -/
structure Writes (vs : List (String × List Char)) (r : Record) : Prop where
  id : ∃ text, valuesOf "id" vs = [text] ∧ StringText r.id text
  full : r.id ≠ ""
  op : valuesOf "op" vs = [] ∧ r.op = .index ∨ ∃ text, valuesOf "op" vs = [text] ∧
    KindText r.op text
  doc : if r.op = .delete then r.doc = none ∧ (valuesOf "doc" vs).length ≤ 1
    else ∃ text, valuesOf "doc" vs = [text] ∧ text ≠ nullText ∧ r.doc = some (String.ofList text)

/-- Of the texts under a name at most one is read, and only if none was before. -/
def Field {α : Type} (Text : α → List Char → Prop) (before : Option α) (texts : List (List Char))
    (after : Option α) : Prop :=
  texts = [] ∧ after = before ∨ before = none ∧ ∃ a text, texts = [text] ∧ Text a text ∧
    after = some a

/-- What is read of named values, after what was read before. -/
structure Kept (vs : List (String × List Char)) (m m' : Members) : Prop where
  id : Field StringText m.id (valuesOf "id" vs) m'.id
  op : Field KindText m.op (valuesOf "op" vs) m'.op
  doc : Field (fun doc text => doc = docOf text) m.doc (valuesOf "doc" vs) m'.doc

section Keeping

variable {vs : List (String × List Char)} {m m' : Members}

theorem valuesOf_cons (name : String) (v : String × List Char) :
    valuesOf name (v :: vs) = if v.1 = name then v.2 :: valuesOf name vs else valuesOf name vs := by
  unfold valuesOf
  rw [List.filter_cons]
  by_cases same : v.1 = name <;> simp [same]

theorem field_cons {α : Type} {Text : α → List Char → Prop} {before after : Option α}
    {text : List Char} {texts : List (List Char)} :
    Field Text before (text :: texts) after ↔ before = none ∧ ∃ a, Text a text ∧
    Field Text (some a) texts after := by
  unfold Field
  constructor
  · rintro (⟨none, -⟩ | ⟨first, a, text', one, meant, rfl⟩)
    · cases none
    · cases one
      exact ⟨first, a, meant, .inl ⟨rfl, rfl⟩⟩
  · rintro ⟨first, a, meant, ⟨rfl, rfl⟩ | ⟨again, -⟩⟩
    · exact .inr ⟨first, a, text, rfl, meant, rfl⟩
    · cases again

theorem kept_nil : Kept [] m m' ↔ m' = m := by
  obtain ⟨id, op, doc⟩ := m
  obtain ⟨id', op', doc'⟩ := m'
  constructor
  · rintro ⟨ids, ops, docs⟩
    simp_all [Field, valuesOf]
  · intro same
    cases same
    exact ⟨.inl ⟨rfl, rfl⟩, .inl ⟨rfl, rfl⟩, .inl ⟨rfl, rfl⟩⟩

theorem kept_iff : Kept vs m m' ↔ Field StringText m.id (valuesOf "id" vs) m'.id ∧
    Field KindText m.op (valuesOf "op" vs) m'.op ∧ Field (fun doc text => doc = docOf text) m.doc
      (valuesOf "doc" vs) m'.doc :=
  ⟨fun ⟨id, op, doc⟩ => ⟨id, op, doc⟩, fun ⟨id, op, doc⟩ => ⟨id, op, doc⟩⟩

theorem kept_cons {name : String} {text : List Char} :
    Kept ((name, text) :: vs) m m' ↔ ∃ m₁, Adds m name text m₁ ∧ Kept vs m₁ m' := by
  simp only [kept_iff, valuesOf_cons]
  by_cases id : name = "id"
  · subst id
    simp only [Adds, String.reduceEq, if_true, if_false, field_cons, false_and, false_or, true_and]
    constructor
    · rintro ⟨⟨first, a, meant, ids⟩, ops, docs⟩
      exact ⟨_, .inl ⟨first, a, meant, rfl⟩, ids, ops, docs⟩
    · rintro ⟨m₁, added, ids, ops, docs⟩
      obtain ⟨first, a, meant, rfl⟩ := added.resolve_right (by simp)
      exact ⟨⟨first, a, meant, ids⟩, ops, docs⟩
  by_cases op : name = "op"
  · subst op
    simp only [Adds, String.reduceEq, if_true, if_false, field_cons, false_and, false_or, true_and]
    constructor
    · rintro ⟨ids, ⟨first, a, meant, ops⟩, docs⟩
      exact ⟨_, .inl ⟨first, a, meant, rfl⟩, ids, ops, docs⟩
    · rintro ⟨m₁, added, ids, ops, docs⟩
      obtain ⟨first, a, meant, rfl⟩ := added.resolve_right (by simp)
      exact ⟨ids, ⟨first, a, meant, ops⟩, docs⟩
  by_cases doc : name = "doc"
  · subst doc
    simp only [Adds, String.reduceEq, if_true, if_false, field_cons, false_and, false_or, true_and]
    constructor
    · rintro ⟨ids, ops, first, a, rfl, docs⟩
      exact ⟨_, .inl ⟨first, rfl⟩, ids, ops, docs⟩
    · rintro ⟨m₁, added, ids, ops, docs⟩
      obtain ⟨first, rfl⟩ := added.resolve_right (by simp)
      exact ⟨ids, ops, first, _, rfl, docs⟩
  · simp [Adds, id, op, doc]

end Keeping

/-- The record that comes of what was read. -/
def Members.Gives (m : Members) (r : Record) : Prop :=
  m.id = some r.id ∧ r.id ≠ "" ∧ r.op = m.op.getD .index ∧
    if r.op = .delete then r.doc = none else ∃ d, m.doc = some (some d) ∧ r.doc = some d

theorem parse_eq_ok_iff {line : String} {r : Record} :
    parse line = .ok r ↔ ∃ m, readLine line.toList = some m ∧ m.Gives r := by
  constructor
  · intro h
    unfold parse at h
    split at h
    · cases h
    · cases h
    · rename_i id op doc read
      dsimp only at h
      split at h
      · cases h
      · rename_i full
        have named : id ≠ "" := by simpa using full
        split at h
        · rename_i deletes
          cases h
          exact ⟨_, read, rfl, named, rfl, by rw [if_pos deletes]⟩
        · rename_i other
          split at h
          · rename_i d kept
            cases h
            have given : doc = some (some d) := by
              cases doc with
              | none => cases kept
              | some doc => exact congrArg some kept
            exact ⟨_, read, rfl, named, rfl, by rw [if_neg other]; exact ⟨d, given, rfl⟩⟩
          · cases h
  · rintro ⟨⟨id, op, doc⟩, read, rfl, full, kind, held⟩
    obtain ⟨op', id, doc'⟩ := r
    obtain rfl : op' = op.getD .index := kind
    have named : ¬ id.isEmpty = true := by simpa using full
    unfold parse
    rw [read]
    dsimp only at held ⊢
    rw [if_neg named]
    split at held
    · rename_i deletes
      rw [if_pos deletes, held]
    · rename_i other
      obtain ⟨d, rfl, rfl⟩ := held
      rw [if_neg other]
      rfl

section Fields

variable {texts : List (List Char)}

theorem field_some_iff {α : Type} {Text : α → List Char → Prop} {a : α} :
    Field Text none texts (some a) ↔ ∃ text, texts = [text] ∧ Text a text := by
  constructor
  · rintro (⟨-, none⟩ | ⟨-, a, text, one, meant, same⟩)
    · cases none
    · cases same
      exact ⟨text, one, meant⟩
  · rintro ⟨text, one, meant⟩
    exact .inr ⟨rfl, a, text, one, meant, rfl⟩

/-- Without a kind a record is to be indexed. -/
theorem exists_field_kind_iff {kind : OpKind} :
    (∃ op, Field KindText none texts op ∧ kind = op.getD .index) ↔
      texts = [] ∧ kind = .index ∨ ∃ text, texts = [text] ∧ KindText kind text := by
  constructor
  · rintro ⟨_, ⟨absent, rfl⟩ | ⟨-, op, text, one, meant, rfl⟩, rfl⟩
    · exact .inl ⟨absent, rfl⟩
    · exact .inr ⟨text, one, meant⟩
  · rintro (⟨absent, rfl⟩ | one)
    · exact ⟨none, .inl ⟨absent, rfl⟩, rfl⟩
    · exact ⟨some kind, field_some_iff.2 one, rfl⟩

/-- A record that deletes has no document, whether or not one is written. -/
theorem exists_field_doc_iff {kind : OpKind} {held : Option String} :
    (∃ doc, Field (fun doc text => doc = docOf text) none texts doc ∧
      if kind = .delete then held = none else ∃ d, doc = some (some d) ∧ held = some d) ↔
      if kind = .delete then held = none ∧ texts.length ≤ 1
      else ∃ text, texts = [text] ∧ text ≠ nullText ∧ held = some (String.ofList text) := by
  by_cases deletes : kind = .delete
  · simp only [if_pos deletes]
    constructor
    · rintro ⟨doc, ⟨absent, -⟩ | ⟨-, -, text, one, -⟩, nothing⟩
      · exact ⟨nothing, by simp [absent]⟩
      · exact ⟨nothing, by simp [one]⟩
    · rintro ⟨nothing, few⟩
      match texts with
      | [] => exact ⟨none, .inl ⟨rfl, rfl⟩, nothing⟩
      | [text] => exact ⟨some (docOf text), field_some_iff.2 ⟨text, rfl, rfl⟩, nothing⟩
      | _ :: _ :: _ => simp at few
  · simp only [if_neg deletes]
    constructor
    · rintro ⟨_, field, d, rfl, is⟩
      obtain ⟨text, one, meant⟩ := field_some_iff.1 field
      rw [docOf] at meant
      split at meant
      · cases meant
      · rename_i given
        cases meant
        exact ⟨text, one, given, is⟩
    · rintro ⟨text, one, given, is⟩
      exact ⟨some (docOf text), field_some_iff.2 ⟨text, one, rfl⟩, _,
        by rw [docOf, if_neg given], is⟩

end Fields

theorem writes_iff {vs : List (String × List Char)} {r : Record} :
    Writes vs r ↔ ∃ m, Kept vs {} m ∧ m.Gives r := by
  constructor
  · rintro ⟨ids, full, ops, docs⟩
    obtain ⟨op, keepsOp, kind⟩ := exists_field_kind_iff.2 ops
    obtain ⟨doc, keepsDoc, held⟩ := exists_field_doc_iff.2 docs
    exact ⟨⟨some r.id, op, doc⟩, ⟨field_some_iff.2 ids, keepsOp, keepsDoc⟩, rfl, full, kind, held⟩
  · rintro ⟨⟨id, op, doc⟩, ⟨ids, ops, docs⟩, rfl, full, kind, held⟩
    exact ⟨field_some_iff.1 ids, full, exists_field_kind_iff.1 ⟨op, ops, kind⟩,
      exists_field_doc_iff.1 ⟨doc, docs, held⟩⟩

/-! ## What is wrong with values -/

/-- What keeps named values from writing a record. -/
inductive Defect (vs : List (String × List Char)) : Prop
  | noId (absent : valuesOf "id" vs = [])
  | noString {text : List Char} (held : text ∈ valuesOf "id" vs) (other : ∀ s, ¬ StringText s text)
  | emptyId {text : List Char} (held : text ∈ valuesOf "id" vs) (empty : StringText "" text)
  | unknownOp {text : List Char} (held : text ∈ valuesOf "op" vs)
      (unknown : ∀ op, ¬ KindText op text)
  | repeated {name : String} (known : name ∈ ["id", "op", "doc"])
      (again : 2 ≤ (valuesOf name vs).length)
  | noDoc (keeps : ∀ text ∈ valuesOf "op" vs, ¬ KindText .delete text)
      (absent : ∀ text ∈ valuesOf "doc" vs, text = nullText)

theorem not_writes_of_defect {vs : List (String × List Char)} (h : Defect vs) (r : Record) :
    ¬ Writes vs r := by
  rintro ⟨⟨idText, ids, spelled⟩, full, ops, docs⟩
  cases h with
  | noId absent => rw [absent] at ids; cases ids
  | noString held other =>
    rw [ids, List.mem_singleton] at held
    exact other _ (held ▸ spelled)
  | emptyId held empty =>
    rw [ids, List.mem_singleton] at held
    exact full (understands_string.unique spelled (held ▸ empty))
  | unknownOp held unknown =>
    rcases ops with ⟨absent, -⟩ | ⟨text, one, meant⟩
    · rw [absent] at held
      cases held
    · rw [one, List.mem_singleton] at held
      exact unknown _ (held ▸ meant)
  | repeated known again =>
    simp only [List.mem_cons, List.not_mem_nil, or_false] at known
    rcases known with rfl | rfl | rfl
    · simp [ids] at again
    · rcases ops with ⟨absent, -⟩ | ⟨text, one, -⟩
      · simp [absent] at again
      · simp [one] at again
    · split at docs
      · omega
      · obtain ⟨text, one, -⟩ := docs
        simp [one] at again
  | noDoc keeps absent =>
    split at docs
    · rename_i deletes
      rcases ops with ⟨-, is⟩ | ⟨text, one, meant⟩
      · cases deletes.symm.trans is
      · exact keeps text (by rw [one]; exact .head _) (deletes ▸ meant)
    · obtain ⟨text, one, given, -⟩ := docs
      exact given (absent text (by rw [one]; exact .head _))

/-- At most one text stands under a name, or the name is repeated. -/
theorem single_or_repeated (name : String) (vs : List (String × List Char)) :
    valuesOf name vs = [] ∨ (∃ text, valuesOf name vs = [text]) ∨
    2 ≤ (valuesOf name vs).length := by
  match valuesOf name vs with
  | [] => exact .inl rfl
  | [text] => exact .inr (.inl ⟨text, rfl⟩)
  | _ :: _ :: _ => exact .inr (.inr (by simp))

theorem exists_writes_of_no_defect {vs : List (String × List Char)} (h : ¬ Defect vs) :
    ∃ r, Writes vs r := by
  have once (name : String) (known : name ∈ ["id", "op", "doc"]) : valuesOf name vs = [] ∨
    ∃ text, valuesOf name vs = [text] := by
    rcases single_or_repeated name vs with absent | one | again
    · exact .inl absent
    · exact .inr one
    · exact absurd (.repeated known again) h
  obtain ⟨idText, ids⟩ := (once "id" (by simp)).resolve_left fun absent => h (.noId absent)
  obtain ⟨id, spelled⟩ : ∃ id, StringText id idText :=
    Classical.byContradiction fun other =>
      h (.noString (by rw [ids]; exact .head _) (not_exists.1 other))
  have full : id ≠ "" := fun empty => h (.emptyId (by rw [ids]; exact .head _) (empty ▸ spelled))
  obtain ⟨op, ops⟩ : ∃ op, valuesOf "op" vs = [] ∧ op = .index ∨ ∃ text, valuesOf "op" vs = [text] ∧
    KindText op text := by
    rcases once "op" (by simp) with absent | ⟨text, one⟩
    · exact ⟨.index, .inl ⟨absent, rfl⟩⟩
    · obtain ⟨op, meant⟩ : ∃ op, KindText op text :=
        Classical.byContradiction fun unknown =>
          h (.unknownOp (by rw [one]; exact .head _) (not_exists.1 unknown))
      exact ⟨op, .inr ⟨text, one, meant⟩⟩
  by_cases deletes : op = .delete
  · refine ⟨⟨op, id, none⟩, ⟨idText, ids, spelled⟩, full, ops, ?_⟩
    rw [if_pos deletes]
    rcases once "doc" (by simp) with absent | ⟨text, one⟩
    · exact ⟨rfl, by simp [absent]⟩
    · exact ⟨rfl, by simp [one]⟩
  · have keeps : ∀ text ∈ valuesOf "op" vs, ¬ KindText .delete text := by
      intro text held other
      rcases ops with ⟨absent, -⟩ | ⟨text', one, meant⟩
      · rw [absent] at held
        cases held
      · rw [one, List.mem_singleton] at held
        exact deletes (understands_kind.unique meant (held ▸ other))
    obtain ⟨text, one, given⟩ : ∃ text, valuesOf "doc" vs = [text] ∧ text ≠ nullText := by
      rcases once "doc" (by simp) with absent | ⟨text, one⟩
      · exact absurd (.noDoc keeps (by simp [absent])) h
      · exact ⟨text, one, fun null => h (.noDoc keeps (by simp [one, null]))⟩
    refine ⟨⟨op, id, some (String.ofList text)⟩, ⟨idText, ids, spelled⟩, full, ops, ?_⟩
    rw [if_neg deletes]
    exact ⟨text, one, given, rfl⟩

/-- **Values write no record** exactly if there is something wrong with them. -/
theorem not_exists_writes_iff {vs : List (String × List Char)} : (¬ ∃ r, Writes vs r) ↔ Defect vs :=
  ⟨fun none => Classical.byContradiction fun clean => none (exists_writes_of_no_defect clean),
    fun defect ⟨r, writes⟩ => not_writes_of_defect defect r writes⟩

end Reindex.Record
