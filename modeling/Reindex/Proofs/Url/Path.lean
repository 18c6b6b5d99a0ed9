import Mathlib
import Reindex.Proofs.Url.Percent
import Reindex.Url.Basic

/-!
# Segments added to a path

A path to which segments are added begins with a slash, or is empty. What a segment becomes there is
what is left of it once the characters are dropped that URLs do not have: `.` and `..` themselves
are left out, what is only left with a dot is an empty segment, and what is left with two takes the
segment before away.

Main statements: `Rooted.pushSegment_eq`, which says what one more segment does to such a path, and
`PathWord.land_inj`: behind a word, different remainders of a segment give different paths.
-/

namespace Reindex.Url

/-! ## Dot segments -/

theorem eq_or_eq_toUpper {c d : Char} (h : c.toLower = d) : c = d ∨ c = d.toUpper := by
  by_cases lower : c.isLower
  · rw [Char.toLower_eq_of_not_isUpper (Char.not_isUpper_of_isLower lower)] at h
    exact .inl h
  · rw [← h, Char.toUpper_toLower_eq_toUpper, Char.toUpper_eq_of_not_isLower lower]
    exact .inr rfl

theorem isDot_iff {seg : List Char} :
    isDot seg = true ↔ seg.map Char.toLower ∈ [['.'], ['%', '2', 'e']] := by
  simp [isDot, ← String.toList_inj]

/-- A dot in either spelling stands for one. -/
theorem percentDecode_dot {seg : List Char} (dot : isDot seg = true) (rest : List Char) :
    percentDecode (seg ++ rest) = String.utf8EncodeChar '.' ++ percentDecode rest := by
  have lowered : seg.map Char.toLower = ['.'] ∨ seg.map Char.toLower = ['%', '2', 'e'] := by
    simpa using isDot_iff.1 dot
  rcases lowered with plain | coded
  · obtain ⟨c, rfl, point⟩ := List.map_eq_singleton_iff.1 plain
    rcases eq_or_eq_toUpper point with rfl | rfl
    · rfl
    · rfl
  · obtain ⟨p, seg, rfl, percent, coded⟩ := List.map_eq_cons_iff.1 coded
    obtain ⟨t, seg, rfl, two, coded⟩ := List.map_eq_cons_iff.1 coded
    obtain ⟨e, rfl, letter⟩ := List.map_eq_singleton_iff.1 coded
    rcases eq_or_eq_toUpper percent with rfl | rfl <;>
      rcases eq_or_eq_toUpper two with rfl | rfl <;>
      rcases eq_or_eq_toUpper letter with rfl | rfl <;> rfl

/-- Two dots in any spelling are a dot and a dot. -/
theorem exists_dots_of_isDoubleDot {seg : List Char} (double : isDoubleDot seg = true) :
    ∃ a b, seg = a ++ b ∧ isDot a = true ∧ isDot b = true := by
  have parts : ∃ x ∈ [['.'], ['%', '2', 'e']], ∃ y ∈ [['.'], ['%', '2', 'e']],
    seg.map Char.toLower = x ++ y := by
    simpa [isDoubleDot, ← String.toList_inj, or_assoc] using double
  obtain ⟨x, hx, y, hy, whole⟩ := parts
  obtain ⟨a, b, rfl, first, second⟩ := List.map_eq_append_iff.1 whole
  exact ⟨a, b, rfl, isDot_iff.2 (first ▸ hx), isDot_iff.2 (second ▸ hy)⟩

/-! ## Encoded segments -/

variable {special : Bool}

/-- A segment as it stands in a path. -/
def segment (special : Bool) (cs : List Char) : List Char := percentEncode (inSegmentSet special) cs

@[simp] theorem segment_nil : segment special [] = [] := rfl

theorem segmentSet_percent : inSegmentSet special '%' = true := by
  cases special <;> rfl

theorem slash_not_mem_segment (cs : List Char) : '/' ∉ segment special cs :=
  slash_not_mem_percentEncode (by cases special <;> rfl) cs

theorem segment_inj {cs ds : List Char} : segment special cs = segment special ds ↔ cs = ds :=
  ⟨percentEncode_injective segmentSet_percent, congrArg _⟩

theorem segment_ne_nil {s : String} (nonempty : s ≠ "") : segment special s.toList ≠ [] :=
  fun empty =>
    nonempty (String.toList_eq_nil_iff.1 (percentEncode_injective segmentSet_percent empty))

/-- The first character of a text stands at the beginning of its segment, if not a percent sign. -/
theorem segment_cons (special : Bool) (c : Char) (cs : List Char) :
    segment special (c :: cs) = c :: segment special cs ∨
    ∃ rest, segment special (c :: cs) = '%' :: rest := by
  rw [segment, percentEncode_cons]
  split
  · exact .inl rfl
  · right
    cases bytes : String.utf8EncodeChar c with
    | nil => simp at bytes
    | cons b bytes => exact ⟨_, rfl⟩

theorem decode_segment (cs : List Char) :
    percentDecode (segment special cs) = cs.flatMap String.utf8EncodeChar :=
  decode_percentEncode segmentSet_percent cs

/-- A segment is a dot for that of a dot only, since percent signs are encoded too. -/
theorem isDot_segment {cs : List Char} : isDot (segment special cs) = true ↔ cs = ['.'] := by
  constructor
  · intro dot
    have decoded := percentDecode_dot dot []
    rw [List.append_nil, decode_segment] at decoded
    exact eq_of_utf8_eq decoded
  · rintro rfl
    cases special <;> decide

theorem isDoubleDot_segment {cs : List Char} :
    isDoubleDot (segment special cs) = true ↔ cs = ['.', '.'] := by
  constructor
  · intro double
    obtain ⟨a, b, parts, first, second⟩ := exists_dots_of_isDoubleDot double
    have decoded := percentDecode_dot first (b ++ [])
    rw [percentDecode_dot second, List.append_nil, ← parts, decode_segment] at decoded
    exact eq_of_utf8_eq decoded
  · rintro rfl
    cases special <;> decide

/-! ## Going back a segment -/

theorem stepBack_isPrefix (path : List Char) : stepBack path <+: path := by
  unfold stepBack
  rw [← List.reverse_suffix, List.reverse_reverse]
  refine (List.dropWhile_suffix _).trans (List.reverse_suffix.2 ?_)
  split
  · exact List.dropLast_prefix path
  · exact List.prefix_rfl

theorem stepBack_ne_nil {path : List Char} (h : '/' ∈ path) : stepBack path ≠ [] := by
  have slash : '/' ∈ (if hasSpareSlash path then path.dropLast else path) := by
    split
    · next spare =>
      unfold hasSpareSlash at spare
      split at spare
      · next before reversed =>
        have inner : path.dropLast = before.reverse := by
          rw [← List.reverse_reverse path, reversed, List.reverse_cons, List.dropLast_concat]
        rw [Bool.and_eq_true, decide_eq_true_eq] at spare
        rw [inner]
        exact List.mem_reverse.2 spare.1
      · cases spare
    · exact h
  unfold stepBack
  rw [Ne, List.reverse_eq_nil_iff, List.dropWhile_eq_nil_iff]
  intro none
  simpa using none '/' (List.mem_reverse.2 slash)

theorem dropWhile_ne_slash {seg : List Char} (slash : '/' ∉ seg) (rest : List Char) :
    (seg ++ '/' :: rest).dropWhile (· ≠ '/') = '/' :: rest := by
  rw [List.dropWhile_append_of_pos, List.dropWhile_cons_of_neg (by simp)]
  intro c h
  simpa using ne_of_mem_of_not_mem h slash

theorem takeWhile_ne_slash {seg : List Char} (slash : '/' ∉ seg) (rest : List Char) :
    (seg ++ '/' :: rest).takeWhile (· ≠ '/') = seg := by
  rw [List.takeWhile_append_of_pos, List.takeWhile_cons_of_neg (by simp), List.append_nil]
  intro c h
  simpa using ne_of_mem_of_not_mem h slash

/-- A segment ends at the first slash. -/
theorem append_slash_inj {seg other : List Char} (slash : '/' ∉ seg) (slash' : '/' ∉ other)
    {rest rest' : List Char} :
    seg ++ '/' :: rest = other ++ '/' :: rest' ↔ seg = other ∧ rest = rest' := by
  constructor
  · intro h
    have same : seg = other := by
      rw [← takeWhile_ne_slash slash rest, h, takeWhile_ne_slash slash' rest']
    subst same
    simpa using h
  · rintro ⟨rfl, rfl⟩
    rfl

/-- Going back takes the segment in front away, unless it is a drive. -/
theorem stepBack_segment {seg : List Char} (path : List Char) (slash : '/' ∉ seg)
    (noDrive : startsWithDrive (seg ++ ['/']) = false) :
    stepBack (path ++ '/' :: seg ++ ['/']) = path ++ ['/'] := by
  have inner : (path ++ '/' :: seg).reverse = seg.reverse ++ '/' :: path.reverse := by simp
  have slash : '/' ∉ seg.reverse := fun h => slash (List.mem_reverse.1 h)
  have spare : hasSpareSlash (path ++ '/' :: seg ++ ['/']) = true := by
    simp only [hasSpareSlash, List.reverse_concat, inner, takeWhile_ne_slash slash,
      List.reverse_reverse, noDrive]
    simp
  rw [stepBack, if_pos spare, List.dropLast_concat, inner, dropWhile_ne_slash slash,
    List.reverse_cons, List.reverse_reverse]

/-! ## Paths that can be added to -/

/-- A path that is empty or begins with a slash; with one slash only, if it belongs to a URL of the
scheme `file`. -/
def Rooted (scheme : String) (path : List Char) : Prop :=
  path = [] ∨ ∃ rest, path = '/' :: rest ∧ (scheme = "file" → rest.head? ≠ some '/')

variable {scheme : String} {path : List Char}

theorem Rooted.of_isPrefix {front : List Char} (rooted : Rooted scheme path) (h : front <+: path) :
    Rooted scheme front := by
  rcases rooted with rfl | ⟨rest, rfl, single⟩
  · exact .inl (List.prefix_nil.1 h)
  · rcases List.prefix_cons_iff.1 h with rfl | ⟨front, rfl, within⟩
    · exact .inl rfl
    · refine .inr ⟨front, rfl, fun file => ?_⟩
      cases front with
      | nil => simp
      | cons c front =>
        obtain ⟨behind, rfl⟩ := within
        exact single file

theorem Rooted.trimRoot_eq (rooted : Rooted "file" path) (nonempty : path ≠ []) :
    trimRoot path = path := by
  rcases rooted with rfl | ⟨rest, rfl, single⟩
  · exact absurd rfl nonempty
  · rw [trimRoot, List.dropWhile_cons_of_pos (by simp)]
    cases rest with
    | nil => rfl
    | cons c rest =>
      have other : c ≠ '/' := by simpa using single rfl
      rw [List.dropWhile_cons_of_neg (by simpa using other)]

/-- What stands in front of a segment that is added, without the slash between the two. -/
def stem (path : List Char) : List Char := if path.length = 1 then [] else path

theorem length_stem (path : List Char) : path.length ≤ (stem path).length + 1 := by
  unfold stem
  split
  · next one => simp [one]
  · exact Nat.le_succ _

theorem stem_isPrefix (path : List Char) : stem path <+: path := by
  unfold stem
  split
  · exact List.nil_prefix
  · exact List.prefix_rfl

theorem popEmpty_isPrefix (path : List Char) : popEmpty path <+: path := by
  unfold popEmpty
  split
  · exact List.dropLast_prefix path
  · exact List.prefix_rfl

theorem stem_segment {seg : List Char} (path : List Char) (nonempty : seg ≠ []) :
    stem (path ++ '/' :: seg) = path ++ '/' :: seg := by
  refine if_neg ?_
  have : 0 < seg.length := List.length_pos_iff.2 nonempty
  simp only [List.length_append, List.length_cons]
  omega

/-- The slash behind the stem: a path that is a slash alone has it already. -/
theorem Rooted.stem_slash (rooted : Rooted scheme path) :
    (if path.length = 1 then path else path ++ ['/']) = stem path ++ ['/'] := by
  rcases rooted with rfl | ⟨rest, rfl, -⟩
  · rfl
  · unfold stem
    cases rest <;> simp

theorem Rooted.add (rooted : Rooted scheme path) {seg : List Char} (slash : '/' ∉ seg) :
    Rooted scheme (stem path ++ '/' :: seg) := by
  have alone : Rooted scheme ('/' :: seg) :=
    .inr ⟨seg, rfl, fun _ first => slash (List.mem_of_mem_head? first)⟩
  rcases rooted with rfl | ⟨rest, rfl, single⟩
  · exact alone
  · cases rest with
    | nil => exact alone
    | cons c rest => exact .inr ⟨c :: rest ++ '/' :: seg, by simp [stem], single⟩

/-! ## One more segment -/

/-- A text without the characters that URLs do not have. -/
def undropped (s : String) : List Char := s.toList.filter (!isDropped ·)

/-- What is left of a text that is added to a path as a segment; none if it is left out. -/
def kept? (s : String) : Option (List Char) :=
  if s = "." ∨ s = ".." then none else some (if undropped s = ['.'] then [] else undropped s)

/-- A text that is added as it stands. -/
def Whole (s : String) : Prop := kept? s = some s.toList

instance (s : String) : Decidable (Whole s) := inferInstanceAs (Decidable (_ = _))

theorem whole_iff {s : String} :
    Whole s ↔ s ≠ "." ∧ s ≠ ".." ∧ ∀ c ∈ s.toList, isDropped c = false := by
  unfold Whole kept? undropped
  split
  · next dots =>
    rcases dots with rfl | rfl <;> simp
  · next named =>
    rw [not_or] at named
    have all : s.toList.filter (!isDropped ·) = s.toList ↔ ∀ c ∈ s.toList, isDropped c = false := by
      simp [List.filter_eq_self]
    rw [← all, Option.some.injEq]
    split
    · next dot =>
      constructor
      · intro empty
        rw [← empty] at dot
        cases dot
      · rintro ⟨notDot, -, whole⟩
        rw [dot] at whole
        exact absurd (String.toList_inj.1 whole.symm) notDot
    · exact ⟨fun whole => ⟨named.1, named.2, whole⟩, fun h => h.2.2⟩

/-- What is left of a text is part of it. -/
theorem kept_sublist {s : String} {cs : List Char} (left : kept? s = some cs) :
    cs.Sublist s.toList := by
  unfold kept? at left
  split at left
  · cases left
  · cases left
    split
    · exact List.nil_sublist _
    · exact List.filter_sublist

/-- A path with what is left of a segment. Two dots take the segment before away. -/
def land (special : Bool) (path : List Char) : Option (List Char) → List Char
  | none => path
  | some cs =>
    if cs = ['.', '.'] then stepBack (stem path ++ ['/'])
    else stem path ++ '/' :: segment special cs

theorem Whole.land_eq {s : String} (whole : Whole s) (path : List Char) :
    land special path (kept? s) = stem path ++ '/' :: segment special s.toList := by
  have notDouble : s.toList ≠ ['.', '.'] := fun h => (whole_iff.1 whole).2.1 (String.toList_inj.1 h)
  rw [whole, land, if_neg notDouble]

/-- A text that is not added as it stands makes a path shorter than its own segment would. -/
theorem length_land_lt (special : Bool) {s : String} (broken : ¬Whole s) (path : List Char) :
    (land special path (kept? s)).length <
    (stem path).length + 1 + (segment special s.toList).length := by
  have nonempty : s ≠ "" := by
    rintro rfl
    exact broken rfl
  have long : 0 < (segment special s.toList).length :=
    List.length_pos_iff.2 (segment_ne_nil nonempty)
  cases left : kept? s with
  | none =>
    have := length_stem path
    dsimp only [land]
    omega
  | some cs =>
    dsimp only [land]
    split
    · have := (stepBack_isPrefix (stem path ++ ['/'])).length_le
      simp only [List.length_append, List.length_singleton] at this
      omega
    · have part : (segment special cs).Sublist (segment special s.toList) :=
        (kept_sublist left).flatMap _
      have shorter : (segment special cs).length < (segment special s.toList).length := by
        refine Nat.lt_of_not_le fun long => broken ?_
        exact left.trans (congrArg some (segment_inj.1 (part.eq_of_length_le long)))
      simp only [List.length_append, List.length_cons]
      omega

theorem length_land_le (special : Bool) (s : String) (path : List Char) :
    (land special path (kept? s)).length ≤
    (stem path).length + 1 + (segment special s.toList).length := by
  by_cases whole : Whole s
  · rw [whole.land_eq, List.length_append, List.length_cons]
    omega
  · exact (length_land_lt special whole path).le

theorem Rooted.land (rooted : Rooted scheme path) (k : Option (List Char)) :
    Rooted scheme (land special path k) := by
  unfold Url.land
  split
  · exact rooted
  · split
    · exact (rooted.add List.not_mem_nil).of_isPrefix (stepBack_isPrefix _)
    · exact rooted.add (slash_not_mem_segment _)

theorem land_some_ne_nil (path cs : List Char) : land special path (some cs) ≠ [] := by
  unfold land
  dsimp only
  split
  · exact stepBack_ne_nil (by simp)
  · simp

theorem addPiece_segment (path cs : List Char) :
    addPiece (inSegmentSet special) (stem path ++ ['/']) cs false =
      land special path (some (if cs = ['.'] then [] else cs)) := by
  have encoded : percentEncode (inSegmentSet special) cs = segment special cs := rfl
  unfold addPiece land
  dsimp only
  simp only [encoded, isDot_segment, isDoubleDot_segment]
  by_cases double : cs = ['.', '.']
  · subst double
    simp
  · by_cases dot : cs = ['.']
    · subst dot
      simp
    · simp [double, dot]

/-- What one more segment does to a path. -/
theorem Rooted.pushSegment_eq (rooted : Rooted scheme path) (s : String) :
    pushSegment scheme path s = Url.land (isSpecial scheme) path (kept? s) := by
  unfold pushSegment kept?
  split
  · rfl
  · dsimp only
    rw [rooted.stem_slash, addPiece_segment]
    split
    · next file =>
      subst file
      exact (rooted.land _).trimRoot_eq (land_some_ne_nil _ _)
    · rfl

theorem Rooted.foldl_pushSegment (rooted : Rooted scheme path) (segments : List String) :
    segments.foldl (pushSegment scheme) path =
      segments.foldl (fun path s => Url.land (isSpecial scheme) path (kept? s)) path := by
  induction segments generalizing path with
  | nil => rfl
  | cons s segments ih =>
    rw [List.foldl_cons, List.foldl_cons, rooted.pushSegment_eq]
    exact ih (rooted.land _)

/-- An extended path, segment by segment. -/
theorem Rooted.extend_path {u : Url} (rooted : Rooted u.scheme u.path) (segments : List String) :
    (u.extend segments).path =
      segments.foldl (fun path s => Url.land (isSpecial u.scheme) path (kept? s))
        (popEmpty u.path) :=
  (rooted.of_isPrefix (popEmpty_isPrefix _)).foldl_pushSegment segments

theorem text_extend_inj {u : Url} {segments others : List String} :
    (u.extend segments).text = (u.extend others).text ↔
    (u.extend segments).path = (u.extend others).path := by
  constructor
  · intro h
    exact List.append_cancel_left
      (List.append_cancel_right (List.append_cancel_right (String.ofList_injective h)))
  · intro h
    simp only [extend] at h
    simp only [extend, h]

/-! ## Behind a word -/

/-- A word that has a place of its own in a path. -/
structure PathWord (w : String) : Prop where
  nonempty : w ≠ ""
  whole : Whole w
  /-- From a drive two dots do not lead back. -/
  noDrive : startsWithDrive w.toList = false

/-- Encoding makes no drive of a text that is none. -/
theorem startsWithDrive_of_segment {cs : List Char}
    (h : startsWithDrive (segment special cs ++ ['/']) = true) : startsWithDrive cs = true := by
  match cs with
  | [] => simp [startsWithDrive] at h
  | [c] =>
    rcases segment_cons special c [] with letter | ⟨rest, letter⟩
    · simp [letter, startsWithDrive] at h
    · cases rest <;> simp [letter, startsWithDrive] at h
  | c :: d :: cs =>
    rcases segment_cons special c (d :: cs) with letter | ⟨rest, letter⟩
    · rcases segment_cons special d cs with mark | ⟨rest, mark⟩
      · rw [letter, mark] at h
        match cs with
        | [] => simpa [startsWithDrive, isSlash] using h
        | e :: cs =>
          rcases segment_cons special e cs with behind | ⟨rest, behind⟩
          · simpa [behind, startsWithDrive] using h
          · simp [behind, startsWithDrive, isSlash] at h
      · simp [letter, mark, startsWithDrive] at h
    · cases rest <;> simp [letter, startsWithDrive] at h

/-- What the next segment does behind a word. -/
theorem PathWord.land_eq {w : String} (word : PathWord w) (path : List Char)
    (k : Option (List Char)) :
    land special (path ++ '/' :: segment special w.toList) k =
      path ++ '/' :: match k with
        | none => segment special w.toList
        | some cs =>
          if cs = ['.', '.'] then [] else segment special w.toList ++ '/' :: segment special cs := by
  have noDrive : startsWithDrive (segment special w.toList ++ ['/']) = false := by
    rw [← Bool.not_eq_true]
    exact fun h => Bool.false_ne_true (word.noDrive.symm.trans (startsWithDrive_of_segment h))
  unfold land
  rw [stem_segment path (segment_ne_nil word.nonempty),
    stepBack_segment path (slash_not_mem_segment _) noDrive]
  cases k with
  | none => rfl
  | some cs =>
    dsimp only
    split <;> simp

/-- Behind a word different remainders give different paths. -/
theorem PathWord.land_inj {w : String} (word : PathWord w) (path : List Char)
    {k l : Option (List Char)} :
    land special (path ++ '/' :: segment special w.toList) k =
      land special (path ++ '/' :: segment special w.toList) l ↔ k = l := by
  refine ⟨fun h => ?_, congrArg _⟩
  have long : segment special w.toList ≠ [] := segment_ne_nil word.nonempty
  have apart (cs : List Char) : segment special w.toList ≠
      if cs = ['.', '.'] then [] else segment special w.toList ++ '/' :: segment special cs := by
    split
    · exact long
    · simp
  rw [word.land_eq, word.land_eq, List.append_cancel_left_eq, List.cons.injEq] at h
  replace h := h.2
  cases k with
  | none =>
    cases l with
    | none => rfl
    | some ds => exact absurd h (apart ds)
  | some cs =>
    cases l with
    | none => exact absurd h.symm (apart cs)
    | some ds =>
      dsimp only at h
      split at h
      · next double =>
        split at h
        · next double' => rw [double, double']
        · simp [long] at h
      · split at h
        · simp at h
        · rw [List.append_cancel_left_eq, List.cons.injEq, segment_inj] at h
          rw [h.2]

end Reindex.Url
