/-!
# Punycode

A label with letters beyond ASCII is written in ASCII as its plain characters and, behind a hyphen,
the places at which the others are inserted: lowest code point first, each as the distance from the
one before. Distances are numbers to the base 36 whose digits end where one is below a threshold,
and thresholds follow the distances seen so far.

Main statement: `threshold_bounds` says that a distance has finitely many digits.
-/

namespace Reindex.Url.Domain.Punycode

/-! ## Digits -/

/-- A digit to the base 36: letters first. -/
def digit (d : Nat) : Char := if d < 26 then Char.ofNat (0x61 + d) else Char.ofNat (0x30 + (d - 26))

def digitValue? (c : Char) : Option Nat :=
  if 'a' ≤ c ∧ c ≤ 'z' then some (c.toNat - 'a'.toNat)
  else if '0' ≤ c ∧ c ≤ '9' then some (c.toNat - '0'.toNat + 26)
  else none

/-- The digit at a position is the last of its number if it is below this. -/
def threshold (bias position : Nat) : Nat := min (max (36 * position - bias) 1) 26

theorem threshold_bounds (bias position : Nat) :
    1 ≤ threshold bias position ∧ threshold bias position ≤ 26 := by
  unfold threshold
  omega

/-! ## Thresholds -/

/-- How often a distance can be divided until it is small, and what is left. -/
def shrink (distance : Nat) : Nat × Nat :=
  if 455 < distance then
    let (steps, left) := shrink (distance / 35)
    (steps + 1, left)
  else (0, distance)
termination_by distance
decreasing_by exact Nat.div_lt_self (by omega) (by omega)

/-- The bias behind a distance, with so many characters in place. -/
def adapt (distance inPlace : Nat) (first : Bool) : Nat :=
  let halved := if first then distance / 700 else distance / 2
  let (steps, left) := shrink (halved + halved / inPlace)
  36 * steps + 36 * left / (left + 38)

/-! ## Writing -/

/-- The digits of a distance, from a position on. -/
def digits (bias position distance : Nat) : List Char :=
  let t := threshold bias position
  if distance < t then [digit distance]
  else digit (t + (distance - t) % (36 - t)) :: digits bias (position + 1)
    ((distance - t) / (36 - t))
termination_by distance
decreasing_by
  have h := threshold_bounds bias position
  exact Nat.lt_of_le_of_lt (Nat.div_le_self ..) (by omega)

def isBasic (c : Char) : Bool := c.toNat < 0x80

/-- A character and the number of those before it that are in place when it is inserted. -/
structure Insertion where
  code : Nat
  place : Nat

/-- The insertions that make a text, in order, with those characters before it that are passed in
`before`. -/
def insertions (before : List Char) : List Char → List Insertion
  | [] => []
  | c :: rest =>
    let later := insertions (c :: before) rest
    if isBasic c then later else ⟨c.toNat, (before.filter (· ≤ c)).length⟩ :: later

/-- What the next distance is counted from. -/
structure Cursor where
  code : Nat := 0x80
  place : Nat := 0
  /-- The characters in place. -/
  count : Nat
  bias : Nat := 72

/-- Behind an insertion at a distance. -/
def Cursor.move (s : Cursor) (i : Insertion) (distance : Nat) (first : Bool) : Cursor where
  code := i.code
  place := i.place + 1
  count := s.count + 1
  bias := adapt distance (s.count + 1) first

/-- Insertions as digits. -/
def writeInsertions (first : Bool) (s : Cursor) : List Insertion → List Char
  | [] => []
  | i :: rest =>
    let distance := (i.code - s.code) * (s.count + 1) + i.place - s.place
    digits s.bias 1 distance ++ writeInsertions false (s.move i distance first) rest

/-- The characters of ASCII that stand for a text. -/
def encode (text : List Char) : List Char :=
  let basic := text.filter isBasic
  let inOrder := (insertions [] text).mergeSort (·.code ≤ ·.code)
  (if basic.isEmpty then [] else basic ++ ['-']) ++ writeInsertions true
    { count := basic.length } inOrder

/-! ## Reading -/

/-- The greatest number that distances are counted with. -/
def greatest : Nat := 0xFFFFFFFF

/-- The number that digits begin with, and the digits behind it; `weight` is what its first digit
counts. -/
def readDistance? (bias position weight : Nat) : List Char → Option (Nat × List Char)
  | [] => none
  | c :: rest => do
    let d ← digitValue? c
    let t := threshold bias position
    if d < t then return (d * weight, rest)
    else if weight * (36 - t) > greatest then none
    else
      let (more, rest) ← readDistance? bias (position + 1) (weight * (36 - t)) rest
      return (d * weight + more, rest)

theorem readDistance?_length {bias position weight distance : Nat} {cs rest : List Char}
    (h : readDistance? bias position weight cs = some (distance, rest)) :
    rest.length < cs.length := by
  induction cs generalizing position weight distance rest with
  | nil => simp [readDistance?] at h
  | cons c cs ih =>
    rw [readDistance?] at h
    cases hd : digitValue? c with
    | none => simp [hd] at h
    | some d =>
      simp only [hd, Option.bind_eq_bind, Option.bind_some] at h
      split at h
      · simp only [Option.pure_def, Option.some.injEq, Prod.mk.injEq] at h
        simp [← h.2]
      · split at h
        · simp at h
        · cases hr : readDistance? bias (position + 1)
            (weight * (36 - threshold bias position)) cs with
          | none => simp [hr] at h
          | some r =>
            obtain ⟨more, left⟩ := r
            simp only [hr, Option.bind_some, Option.pure_def, Option.some.injEq, Prod.mk.injEq] at h
            have := ih hr
            simp only [List.length_cons, ← h.2]
            omega

/-- The text that digits make of the characters that are in place. -/
def readInsertions? (first : Bool) (s : Cursor) (text cs : List Char) : Option (List Char) :=
  if cs.isEmpty then some text
  else
    match _h : readDistance? s.bias 1 1 cs with
    | none => none
    | some (distance, rest) =>
      let total := s.place + distance
      let code := s.code + total / (s.count + 1)
      let place := total % (s.count + 1)
      if total > greatest ∨ !code.isValidChar then none
      else
        readInsertions? false (s.move ⟨code, place⟩ distance first)
          (text.take place ++ Char.ofNat code :: text.drop place) rest
termination_by cs.length
decreasing_by exact readDistance?_length _h

/-- The plain characters in front of the last hyphen, and the digits behind it. -/
def splitBasic (cs : List Char) : List Char × List Char :=
  let behind := (cs.reverse.takeWhile (· ≠ '-')).reverse
  let front := cs.take (cs.length - behind.length - 1)
  if front.isEmpty then ([], cs) else (front, behind)

/-- The text that characters of ASCII stand for. -/
def decode? (cs : List Char) : Option (List Char) :=
  let (basic, behind) := splitBasic cs
  readInsertions? true { count := basic.length } basic behind

end Reindex.Url.Domain.Punycode
