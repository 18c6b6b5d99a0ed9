import Mathlib.Data.List.Chain
import Reindex.Proofs.Naming.Siblings

/-!
# The grammar of time windows

A pattern is read from left to right as pieces: two quotes side by side, text in quotes, single
characters that stand for themselves, and runs of one letter. `Reads` says so without the parts and
the tokens that a pattern is made into. Text in quotes begins with some other character than a
quote, since two quotes side by side are a piece of their own there, and a piece goes on as long as
it can: a run up to another letter, a text up to a quote that stands alone.

Main statements: `TimeWindow.Reads.outside_eq` and `TimeWindow.exists_reads`, by which the parts of
a pattern are its pieces, and `TimeWindow.of_parse`, by which a pattern that is understood renders
to its pieces, one after another.
-/

namespace Reindex

namespace TimeWindow

/-- A piece of a pattern, as it is meant. -/
inductive Piece where
  /-- Two quotes side by side, outside of quoted text. -/
  | quote
  /-- Text in quotes. -/
  | quoted (text : List Char)
  /-- A character that stands for itself. -/
  | plain (c : Char)
  /-- A letter, so many times. -/
  | run (letter : Char) (count : Nat)
deriving DecidableEq, Repr

namespace Piece

/-- A character inside of quotes: a quote is written twice. -/
def doubled (c : Char) : List Char := if c = '\'' then ['\'', '\''] else [c]

/-- A piece as it is written. -/
def spelling : Piece → List Char
  | quote => ['\'', '\'']
  | quoted text => '\'' :: text.flatMap doubled ++ ['\'']
  | plain c => [c]
  | run letter count => List.replicate count letter

/-- The quote that opens a text is not followed by another; what stands for itself is no letter and
no quote. -/
def Formed : Piece → Prop
  | quote => True
  | quoted text => ∃ c rest, text = c :: rest ∧ c ≠ '\''
  | plain c => isLetter c = false ∧ c ≠ '\''
  | run letter count => isLetter letter = true ∧ 0 < count

/-- The first piece is over where the second begins: the quote that closes a text is not followed by
another, nor a run by the same letter. -/
def EndsBefore : Piece → Piece → Prop
  | quoted _, quote => False
  | quoted _, quoted _ => False
  | run c _, run d _ => c ≠ d
  | _, _ => True

/-- A run names a field. -/
def Supported : Piece → Prop
  | run letter count =>
    letter = 'y' ∨ letter ∈ ['M', 'd', 'H', 'm', 's'] ∧ (count = 1 ∨ count = 2) ∨ letter = 'S' ∧
    count = 3
  | _ => True

/-- The number that a run names, of a date and a time of day. -/
def fieldValue (t : CivilTime) (letter : Char) (count : Nat) : Int :=
  match letter with
  | 'y' => if count = 2 then t.year % 100 else t.year
  | 'M' => t.month
  | 'd' => t.day
  | 'H' => t.hour
  | 'm' => t.minute
  | 's' => t.second
  | 'S' => t.millis
  | _ => 0

/-- What a piece stands for; a field is filled up to as many places as it has letters. -/
def render (t : CivilTime) : Piece → List Char
  | quote => ['\'']
  | quoted text => text
  | plain c => [c]
  | run letter count => paddedYear count (fieldValue t letter count)

/-- The part that a piece becomes. -/
def part : Piece → Part
  | quote => .text ['\'']
  | quoted text => .text text
  | plain c => .text [c]
  | run letter count => .run letter count

end Piece

/-- The characters are the pieces, one after another. -/
structure Reads (cs : List Char) (pieces : List Piece) : Prop where
  spelled : cs = pieces.flatMap Piece.spelling
  formed : ∀ p ∈ pieces, p.Formed
  apart : pieces.IsChain Piece.EndsBefore

/-! ## From pieces to parts -/

section Outside

variable {pieces : List Piece}

theorem Reads.nil : Reads [] [] := ⟨rfl, fun _ h => absurd h List.not_mem_nil, .nil⟩

theorem Reads.cons {cs : List Char} (read : Reads cs pieces) (p : Piece) (formed : p.Formed)
    (apart : ∀ q ∈ pieces.head?, p.EndsBefore q) : Reads (p.spelling ++ cs) (p :: pieces) where
  spelled := by rw [List.flatMap_cons, read.spelled]
  formed := List.forall_mem_cons.2 ⟨formed, read.formed⟩
  apart := List.isChain_cons.2 ⟨apart, read.apart⟩

theorem Reads.uncons {p : Piece} {cs : List Char} (read : Reads cs (p :: pieces)) :
    ∃ rest, cs = p.spelling ++ rest ∧ Reads rest pieces ∧ p.Formed ∧
      ∀ q ∈ pieces.head?, p.EndsBefore q := by
  obtain ⟨formed, others⟩ := List.forall_mem_cons.1 read.formed
  obtain ⟨apart, chain⟩ := List.isChain_cons.1 read.apart
  exact ⟨_, by rw [read.spelled, List.flatMap_cons], ⟨rfl, others, chain⟩, formed, apart⟩

theorem isLetter_ne_quote {c : Char} (h : isLetter c = true) : c ≠ '\'' := by
  rintro rfl
  exact absurd h (by decide)

/-- Behind a text in quotes no quote follows. -/
theorem Reads.head_ne_quote {text cs : List Char} (read : Reads cs pieces)
    (apart : ∀ q ∈ pieces.head?, (Piece.quoted text).EndsBefore q) : cs.head? ≠ some '\'' := by
  cases pieces with
  | nil => simp [read.spelled]
  | cons q pieces =>
    obtain ⟨rest, rfl, -, formed, -⟩ := read.uncons
    have ends := apart q rfl
    cases q with
    | quote => exact ends.elim
    | quoted text => exact ends.elim
    | plain c => simpa [Piece.spelling] using formed.2
    | run letter count =>
      obtain ⟨letter, some⟩ := formed
      obtain ⟨n, rfl⟩ := Nat.exists_eq_succ_of_ne_zero (Nat.pos_iff_ne_zero.1 some)
      simpa [Piece.spelling, List.replicate_succ] using isLetter_ne_quote letter

/-- Text in quotes is taken up to the quote that stands alone. -/
theorem Part.inside_quoted (start : Nat) (text : List Char) {rest : List Char}
    (single : rest.head? ≠ some '\'') (acc : List Char) (position : Nat) :
    ∃ next, Part.inside start acc position (text.flatMap Piece.doubled ++ '\'' :: rest) =
      .text (acc.reverse ++ text) :: Part.outside next rest := by
  induction text generalizing acc position with
  | nil =>
    refine ⟨position + 1, ?_⟩
    rw [List.flatMap_nil, List.nil_append, List.append_nil, Part.inside]
    rintro rest' rfl
    exact single rfl
  | cons c text ih =>
    rw [List.flatMap_cons, List.append_assoc]
    by_cases quote : c = '\''
    · obtain ⟨next, read⟩ := ih ('\'' :: acc) (position + 2)
      refine ⟨next, ?_⟩
      rw [Piece.doubled, if_pos quote, List.cons_append, List.singleton_append, Part.inside,
        read, quote]
      simp
    · obtain ⟨next, read⟩ := ih (c :: acc) (position + 1)
      refine ⟨next, ?_⟩
      rw [Piece.doubled, if_neg quote, List.singleton_append, Part.inside, read]
      · simp
      all_goals
        intros
        exact quote ‹_›

/-- A run of a letter is taken up to another one. -/
theorem Part.outside_run {letter : Char} (isLetter : isLetter letter = true) (count : Nat)
    {cs : List Char} {parts : List Part} (others : ∀ n, parts.head? ≠ some (.run letter n))
    (behind : ∀ position, Part.outside position cs = parts) (position : Nat) :
    Part.outside position (List.replicate (count + 1) letter ++ cs) =
      .run letter (count + 1) :: parts := by
  have step (position : Nat) (cs : List Char) :
      Part.outside position (letter :: cs) = Part.consLetter letter
        (Part.outside (position + 1) cs) := by
    rw [Part.outside, if_pos isLetter]
    all_goals
      intros
      exact isLetter_ne_quote isLetter ‹_›
  induction count generalizing position with
  | zero =>
    rw [List.replicate_one, List.singleton_append, step, behind]
    unfold Part.consLetter
    split
    · rename_i other n rest
      rw [if_neg]
      rintro rfl
      exact others n rfl
    · rfl
  | succ count ih =>
    rw [List.replicate_succ, List.cons_append, step, ih, Part.consLetter, if_pos rfl]

/-- **Pieces become parts,** one each. -/
theorem Reads.outside_eq {cs : List Char} (read : Reads cs pieces) (position : Nat) :
    Part.outside position cs = pieces.map Piece.part := by
  induction pieces generalizing cs position with
  | nil =>
    rw [read.spelled]
    rfl
  | cons p pieces ih =>
    obtain ⟨rest, rfl, behind, formed, apart⟩ := read.uncons
    cases p with
    | quote =>
      rw [Piece.spelling, List.cons_append, List.singleton_append, Part.outside, ih behind]
      rfl
    | quoted text =>
      obtain ⟨c, more, rfl, other⟩ := formed
      obtain ⟨next, taken⟩ :=
        Part.inside_quoted position (c :: more) (behind.head_ne_quote apart) [] (position + 1)
      rw [Piece.spelling, List.cons_append, List.cons_append, List.append_assoc,
        List.singleton_append, Part.outside, taken, ih behind]
      · rfl
      · intro rest' h
        rw [List.flatMap_cons, Piece.doubled, if_neg other] at h
        exact other (List.cons.inj h).1
    | plain c =>
      obtain ⟨letter, quote⟩ := formed
      rw [Piece.spelling, List.singleton_append, Part.outside,
        if_neg (by rw [letter]; exact Bool.false_ne_true), ih behind]
      · rfl
      all_goals
        intros
        exact quote ‹_›
    | run letter count =>
      obtain ⟨isLetter, some⟩ := formed
      obtain ⟨n, rfl⟩ := Nat.exists_eq_succ_of_ne_zero (Nat.pos_iff_ne_zero.1 some)
      refine Part.outside_run isLetter n (fun n first => ?_) (ih behind) position
      cases pieces with
      | nil => cases first
      | cons q pieces =>
        have ends := apart q rfl
        cases q <;> cases first
        exact ends rfl

/-! ## From parts to pieces -/

/-- Text in quotes may stand in front of what does not begin with a quote. -/
theorem Reads.quoted_endsBefore {text cs : List Char} (read : Reads cs pieces)
    (single : cs.head? ≠ some '\'') :
    ∀ q ∈ pieces.head?, (Piece.quoted text).EndsBefore q := by
  intro q first
  obtain ⟨pieces, rfl⟩ := List.head?_eq_some_iff.1 first
  obtain ⟨rest, rfl, -⟩ := read.uncons
  cases q with
  | quote => exact single rfl
  | quoted text => exact single rfl
  | plain c => trivial
  | run letter count => trivial

/-- One more letter in front lengthens a run, or begins one. -/
theorem Reads.consLetter {c : Char} {cs : List Char} (read : Reads cs pieces)
    (isLetter : isLetter c = true) :
    ∃ pieces, Reads (c :: cs) pieces := by
  by_cases same : ∃ n, pieces.head? = some (.run c n)
  · obtain ⟨n, first⟩ := same
    obtain ⟨pieces, rfl⟩ := List.head?_eq_some_iff.1 first
    obtain ⟨rest, rfl, behind, -, apart⟩ := read.uncons
    have longer := behind.cons (.run c (n + 1)) ⟨isLetter, Nat.succ_pos n⟩ fun q hq => by
      have ends := apart q hq
      cases q <;> exact ends
    exact ⟨_, longer⟩
  · refine ⟨_, read.cons (.run c 1) ⟨isLetter, Nat.one_pos⟩ fun q first => ?_⟩
    cases q with
    | run d n =>
      rintro rfl
      exact same ⟨n, first⟩
    | _ => trivial

theorem Part.mem_consLetter {c : Char} {position : Nat} {parts : List Part}
    (h : .unclosed position ∈ parts) :
    .unclosed position ∈ Part.consLetter c parts := by
  unfold Part.consLetter
  split
  · split
    · simpa using h
    · exact .tail _ h
  · exact .tail _ h

/-- **Any text is made of pieces** if every quote in it is closed. -/
theorem exists_reads (position : Nat) (cs : List Char)
    (closed : ∀ q, .unclosed q ∉ Part.outside position cs) :
    ∃ pieces, Reads cs pieces := by
  refine Part.outside.induct
    (fun position cs => (∀ q, .unclosed q ∉ Part.outside position cs) → ∃ pieces, Reads cs pieces)
    (fun start acc position cs => (∀ q, .unclosed q ∉ Part.inside start acc position cs) →
      ∃ (text rest : List Char) (pieces : List Piece),
        cs = text.flatMap Piece.doubled ++ '\'' :: rest ∧ rest.head? ≠ some '\'' ∧
          Reads rest pieces)
    ?nothing ?quote ?opening ?letter ?other ?unclosed ?inner ?closing ?quoted position cs closed
  case nothing => exact fun _ _ => ⟨[], .nil⟩
  case quote =>
    intro position rest ih closed
    rw [Part.outside] at closed
    obtain ⟨pieces, read⟩ := ih fun q h => closed q (.tail _ h)
    exact ⟨_, read.cons .quote trivial fun q _ => by cases q <;> trivial⟩
  case opening =>
    intro position rest single ih closed
    rw [Part.outside] at closed
    · obtain ⟨text, behind, pieces, rfl, alone, read⟩ := ih closed
      have formed : (Piece.quoted text).Formed := by
        cases text with
        | nil => exact absurd rfl (single behind)
        | cons c text =>
          refine ⟨c, text, rfl, ?_⟩
          rintro rfl
          exact single _ rfl
      have whole := read.cons _ formed (read.quoted_endsBefore alone)
      exact ⟨.quoted text :: pieces, by simpa [Piece.spelling] using whole⟩
    · exact single
  case letter =>
    intro position c rest double single isLetter ih closed
    rw [Part.outside, if_pos isLetter] at closed
    · obtain ⟨pieces, read⟩ := ih fun q h => closed q (Part.mem_consLetter h)
      exact read.consLetter isLetter
    · exact double
    · exact single
  case other =>
    intro position c rest double single isLetter ih closed
    rw [Part.outside, if_neg isLetter] at closed
    · obtain ⟨pieces, read⟩ := ih fun q h => closed q (.tail _ h)
      have quote : c ≠ '\'' := fun h => single h
      exact ⟨_, read.cons (.plain c) ⟨by simpa using isLetter, quote⟩ fun q _ =>
        by cases q <;> trivial⟩
    · exact double
    · exact single
  case unclosed =>
    intro start acc position closed
    rw [Part.inside] at closed
    exact absurd (List.mem_singleton.2 rfl) (closed start)
  case inner =>
    intro start acc position rest ih closed
    rw [Part.inside] at closed
    obtain ⟨text, behind, pieces, rfl, alone, read⟩ := ih closed
    exact ⟨'\'' :: text, behind, pieces, rfl, alone, read⟩
  case closing =>
    intro start acc position rest single ih closed
    rw [Part.inside] at closed
    · obtain ⟨pieces, read⟩ := ih fun q h => closed q (.tail _ h)
      refine ⟨[], rest, pieces, rfl, fun quote => ?_, read⟩
      obtain ⟨rest', rfl⟩ := List.head?_eq_some_iff.1 quote
      exact single rest' rfl
    · exact single
  case quoted =>
    intro start acc position c rest double single ih closed
    rw [Part.inside] at closed
    · obtain ⟨text, behind, pieces, rfl, alone, read⟩ := ih closed
      have quote : c ≠ '\'' := fun h => single h
      exact ⟨c :: text, behind, pieces, by simp [Piece.doubled, quote], alone, read⟩
    · exact double
    · exact single

end Outside

/-! ## From parts to tokens -/

/-- The fields that a run of letters can name: each has the number of the run as its value and the
letters as its places. -/
theorem field_of_ofRun? {letter : Char} {count : Nat} {f : DateField} (some : 0 < count)
    (h : DateField.ofRun? letter count = .some f) :
    (Piece.run letter count).Supported ∧ (∀ t, f.render t = (Piece.run letter count).render t) ∧
      (f.isWritable = true ↔ (letter = 'y' → count ≤ mostPlaces)) := by
  have padded (width n : Nat) : paddedYear width n = Text.paddedDigits width n := by
    rw [paddedYear, if_neg (by omega), Int.natAbs_natCast]
  unfold DateField.ofRun? at h
  split at h <;> cases h
  case h_1 =>
    refine ⟨.inl rfl, fun t => ?_, fun _ _ => by decide, fun _ => rfl⟩
    have positive : ¬ t.year % 100 < 0 := by omega
    simp only [DateField.render, Piece.render, Piece.fieldValue, paddedYear, if_pos,
      if_neg positive]
    congr 1
    omega
  case h_2 width other =>
    refine ⟨.inl rfl, fun t => ?_, by simp [DateField.isWritable]⟩
    simp only [DateField.render, Piece.render, Piece.fieldValue, if_neg other]
  all_goals
    refine ⟨by simp [Piece.Supported], fun t => ?_, fun _ h => absurd h (by decide), fun _ => rfl⟩
    simp [DateField.render, Piece.render, Piece.fieldValue, padded]

theorem exists_ofRun? {letter : Char} {count : Nat} (h : (Piece.run letter count).Supported) :
    ∃ f, DateField.ofRun? letter count = some f := by
  rcases h with rfl | ⟨known, count⟩ | ⟨rfl, rfl⟩
  · unfold DateField.ofRun?
    split <;> simp_all
  · simp only [List.mem_cons, List.not_mem_nil, or_false] at known
    rcases known with rfl | rfl | rfl | rfl | rfl <;> rcases count with rfl | rfl <;> exact ⟨_, rfl⟩
  · exact ⟨_, rfl⟩

def Token.IsLiteral : Token → Prop
  | .literal _ => True
  | .field _ => False

/-- No literal is empty, and no two of them stand side by side. -/
structure Merged (tokens : List Token) : Prop where
  full : .literal [] ∉ tokens
  apart : tokens.IsChain fun a b => ¬ (a.IsLiteral ∧ b.IsLiteral)

/-- Text is gathered up to the next field. -/
theorem Token.merged_ofParts {gathered : List Char} {parts : List Part} {tokens : List Token}
    (h : Token.ofParts gathered parts = .ok tokens) : Merged tokens := by
  induction parts generalizing gathered tokens with
  | nil =>
    cases h
    unfold Token.gathered
    split
    · exact ⟨List.not_mem_nil, .nil⟩
    · rename_i full
      refine ⟨fun h => ?_, .singleton _⟩
      cases List.mem_singleton.1 h
      exact full rfl
  | cons part parts ih =>
    cases part with
    | text cs => exact ih h
    | unclosed position => cases h
    | run letter count =>
      obtain ⟨f, others, -, behind, rfl⟩ := Token.ofParts_run h
      obtain ⟨full, apart⟩ := ih behind
      have field : Merged (.field f :: others) :=
        ⟨fun h => full ((List.mem_cons.1 h).resolve_left (by simp)),
          List.isChain_cons.2 ⟨fun _ _ both => both.1, apart⟩⟩
      unfold Token.gathered
      split
      · exact field
      · rename_i given
        refine ⟨fun h => ?_, List.isChain_cons_cons.2 ⟨fun both => both.2, field.apart⟩⟩
        rcases List.mem_cons.1 h with same | later
        · cases same
          exact given rfl
        · exact field.full later

theorem Token.unclosed_not_mem {gathered : List Char} {parts : List Part} {tokens : List Token}
    (h : Token.ofParts gathered parts = .ok tokens) (position : Nat) :
    .unclosed position ∉ parts := by
  induction parts generalizing gathered tokens with
  | nil => exact List.not_mem_nil
  | cons part parts ih =>
    cases part with
    | text cs => simpa using ih h
    | unclosed position => cases h
    | run letter count =>
      obtain ⟨f, others, -, behind, -⟩ := Token.ofParts_run h
      simpa using ih behind

/-- Pieces that can be understood become tokens. -/
theorem Token.exists_ofParts {pieces : List Piece} (supported : ∀ p ∈ pieces, p.Supported)
    (gathered : List Char) :
    ∃ tokens, Token.ofParts gathered (pieces.map Piece.part) = .ok tokens := by
  induction pieces generalizing gathered with
  | nil => exact ⟨_, rfl⟩
  | cons p pieces ih =>
    obtain ⟨known, others⟩ := List.forall_mem_cons.1 supported
    cases p with
    | run letter count =>
      obtain ⟨f, named⟩ := exists_ofRun? known
      obtain ⟨tokens, behind⟩ := ih others []
      simp only [List.map_cons, Piece.part, Token.ofParts, named, behind]
      exact ⟨_, rfl⟩
    | _ => exact ih others _

/-- **What tokens tell of the pieces** that they were made from. -/
theorem Token.of_pieces {pieces : List Piece} (formed : ∀ p ∈ pieces, p.Formed)
    {gathered : List Char} {tokens : List Token}
    (h : Token.ofParts gathered (pieces.map Piece.part) = .ok tokens) :
    (∀ p ∈ pieces, p.Supported) ∧
      (∀ t, tokens.flatMap (Token.render t) = gathered ++ pieces.flatMap (Piece.render t)) ∧
      (tokens.all Token.isWritable = true ↔ ∀ n, .run 'y' n ∈ pieces → n ≤ mostPlaces) := by
  have writable (cs : List Char) : (Token.gathered cs).all Token.isWritable = true := by
    unfold Token.gathered
    split <;> rfl
  induction pieces generalizing gathered tokens with
  | nil =>
    cases h
    refine ⟨fun _ h => absurd h List.not_mem_nil, fun t => ?_, fun _ _ h =>
      absurd h List.not_mem_nil, fun _ => writable _⟩
    simpa using Token.render_gathered t gathered []
  | cons p pieces ih =>
    obtain ⟨whole, others⟩ := List.forall_mem_cons.1 formed
    have text (cs : List Char) (same : p.part = .text cs) (rendered : ∀ t, p.render t = cs)
      (known : p.Supported)
        (apart : ∀ n, .run 'y' n ≠ p) :
        (∀ q ∈ p :: pieces, q.Supported) ∧
          (∀ t, tokens.flatMap (Token.render t) = gathered ++ (p :: pieces).flatMap
            (Piece.render t)) ∧
          (tokens.all Token.isWritable = true ↔ ∀ n, .run 'y' n ∈ p :: pieces →
            n ≤ mostPlaces) := by
      rw [List.map_cons, same] at h
      obtain ⟨supported, renders, writes⟩ := ih others h
      refine ⟨List.forall_mem_cons.2 ⟨known, supported⟩, fun t => ?_, ?_⟩
      · rw [renders, List.flatMap_cons, rendered, List.append_assoc]
      · rw [writes]
        simp [apart]
    cases p with
    | quote => exact text _ rfl (fun _ => rfl) trivial nofun
    | quoted cs => exact text cs rfl (fun _ => rfl) trivial nofun
    | plain c => exact text [c] rfl (fun _ => rfl) trivial nofun
    | run letter count =>
      obtain ⟨f, tokens, named, behind, rfl⟩ := Token.ofParts_run h
      obtain ⟨known, rendered, places⟩ := field_of_ofRun? whole.2 named
      obtain ⟨supported, renders, writes⟩ := ih others behind
      refine ⟨List.forall_mem_cons.2 ⟨known, supported⟩, fun t => ?_, ?_⟩
      · rw [Token.render_gathered, List.flatMap_cons, List.flatMap_cons, renders, Token.render,
          rendered, List.nil_append]
      · rw [List.all_append, writable, Bool.true_and, List.all_cons, Bool.and_eq_true, writes,
          Token.isWritable, places]
        constructor
        · rintro ⟨first, rest⟩ n hn
          rcases List.mem_cons.1 hn with same | later
          · cases same
            exact first rfl
          · exact rest n later
        · exact fun all => ⟨fun y => all count (by rw [y]; exact .head _), fun n later =>
            all n (.tail _ later)⟩

/-! ## Patterns -/

variable {pattern : String} {window : TimeWindow} {pieces : List Piece}

/-- A pattern whose runs name fields is understood. -/
theorem Reads.parse (read : Reads pattern.toList pieces) (supported : ∀ p ∈ pieces, p.Supported)
    (full : pattern ≠ "") :
    ∃ window, parse pattern = .ok window := by
  obtain ⟨tokens, made⟩ := Token.exists_ofParts supported []
  refine ⟨⟨pattern, tokens⟩, ?_⟩
  unfold TimeWindow.parse Part.ofPattern
  rw [if_neg (by simpa using full), read.outside_eq, made]
  rfl

/-- Every quote of a pattern that is understood is closed. -/
theorem exists_reads_of_parse (parsed : parse pattern = .ok window) :
    ∃ pieces, Reads pattern.toList pieces :=
  exists_reads 0 pattern.toList (Token.unclosed_not_mem (tokens_of_parse parsed).2)

theorem of_parse (parsed : parse pattern = .ok window) (read : Reads pattern.toList pieces) :
    (∀ p ∈ pieces, p.Supported) ∧
      (∀ now, (window.render now).toList = pieces.flatMap (Piece.render now.civil)) ∧
      (window.isWritable = true ↔ ∀ n, .run 'y' n ∈ pieces → n ≤ mostPlaces) := by
  have made := (tokens_of_parse parsed).2
  rw [Part.ofPattern, read.outside_eq] at made
  obtain ⟨supported, renders, writes⟩ := Token.of_pieces read.formed made
  refine ⟨supported, fun now => ?_, writes⟩
  rw [render, String.toList_ofList, renders, List.nil_append]

end TimeWindow

end Reindex
