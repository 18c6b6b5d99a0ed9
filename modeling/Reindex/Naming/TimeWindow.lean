import Reindex.Calendar
import Reindex.Text.Digits

/-!
# Time windows

A time window is a date pattern such as `yyyyMMdd` whose rendering is appended to the base name of a
freshly built index. Runs of letters are fields; text in single quotes stands for itself, a quote
being written twice; every other character but a letter stands for itself too.

A pattern is first cut into parts (`Part.ofPattern`), then the parts become tokens
(`Token.ofParts`). The leftmost part that is not understood is the one reported.
-/

namespace Reindex

open Text (paddedDigits)

/-- What a run of letters in a pattern stands for. -/
inductive DateField where
  | year (width : Nat)
  | twoDigitYear
  | month (padded : Bool)
  | day (padded : Bool)
  | hour (padded : Bool)
  | minute (padded : Bool)
  | second (padded : Bool)
  | millis
deriving DecidableEq, Repr

/-- The field that a run of `n` times the letter `c` names. -/
def DateField.ofRun? (c : Char) (n : Nat) : Option DateField :=
  match c, n with
  | 'y', 2 => some .twoDigitYear
  | 'y', n => some (.year n)
  | 'M', 1 => some (.month false)
  | 'M', 2 => some (.month true)
  | 'd', 1 => some (.day false)
  | 'd', 2 => some (.day true)
  | 'H', 1 => some (.hour false)
  | 'H', 2 => some (.hour true)
  | 'm', 1 => some (.minute false)
  | 'm', 2 => some (.minute true)
  | 's', 1 => some (.second false)
  | 's', 2 => some (.second true)
  | 'S', 3 => some .millis
  | _, _ => none

/-- A year with zeros in front up to a width, in which the sign of a negative year counts
(`padded_or_not`). -/
def paddedYear (width : Nat) (year : Int) : List Char :=
  if year < 0 then '-' :: paddedDigits (width - 1) year.natAbs else paddedDigits width year.natAbs

/-- A field of a date, as text (`render_field`). -/
def DateField.render (t : CivilTime) : DateField → List Char
  | .year width => paddedYear width t.year
  | .twoDigitYear => paddedDigits 2 (t.year % 100).toNat
  | .month padded => paddedDigits (if padded then 2 else 1) t.month
  | .day padded => paddedDigits (if padded then 2 else 1) t.day
  | .hour padded => paddedDigits (if padded then 2 else 1) t.hour
  | .minute padded => paddedDigits (if padded then 2 else 1) t.minute
  | .second padded => paddedDigits (if padded then 2 else 1) t.second
  | .millis => paddedDigits 3 t.millis

/-- The most places that a number can be filled up to. -/
def mostPlaces : Nat := UInt16.size - 1

/-- There is room for the places that the field asks for. -/
def DateField.isWritable : DateField → Bool
  | .year width => width ≤ mostPlaces
  | _ => true

/-- Why a pattern is not understood. -/
inductive PatternFault where
  | empty
  | unterminatedQuote (position : Nat)
  | unsupportedField (letter : Char) (count : Nat)
deriving DecidableEq, Repr

def PatternFault.reason : PatternFault → String
  | .empty => "the pattern is empty"
  | .unterminatedQuote position => "unterminated quote at position " ++ toString position
  | .unsupportedField letter count =>
    "'" ++ String.ofList (List.replicate count letter) ++ "' is not a supported pattern field"

namespace TimeWindow

/-- A piece of a pattern. -/
inductive Part where
  /-- Text that stands for itself. -/
  | text (cs : List Char)
  /-- A letter, and how often it is repeated. -/
  | run (letter : Char) (count : Nat)
  /-- A quote that is never closed, and where it stands. -/
  | unclosed (position : Nat)
deriving DecidableEq, Repr

/-- A letter in front of parts: it lengthens a run of the same letter. -/
def Part.consLetter (c : Char) : List Part → List Part
  | .run d n :: rest => if c = d then .run d (n + 1) :: rest else .run c 1 :: .run d n :: rest
  | rest => .run c 1 :: rest

def isLetter (c : Char) : Bool := ('a' ≤ c && c ≤ 'z') || ('A' ≤ c && c ≤ 'Z')

mutual
/-- The parts of a pattern from a place outside quotes; `position` characters come before it. -/
def Part.outside (position : Nat) : List Char → List Part
  | [] => []
  | '\'' :: '\'' :: rest => .text ['\''] :: Part.outside (position + 2) rest
  | '\'' :: rest => Part.inside position [] (position + 1) rest
  | c :: rest =>
    if isLetter c then Part.consLetter c (Part.outside (position + 1) rest)
    else .text [c] :: Part.outside (position + 1) rest
/-- The parts of a pattern from a place inside the quote opened at `start`; `acc` holds the quoted
characters so far, latest first. -/
def Part.inside (start : Nat) (acc : List Char) (position : Nat) : List Char → List Part
  | [] => [.unclosed start]
  | '\'' :: '\'' :: rest => Part.inside start ('\'' :: acc) (position + 2) rest
  | '\'' :: rest => .text acc.reverse :: Part.outside (position + 1) rest
  | c :: rest => Part.inside start (c :: acc) (position + 1) rest
end

/-- The parts of a pattern, from left to right. -/
def Part.ofPattern (cs : List Char) : List Part := Part.outside 0 cs

/-- A piece of a pattern that is understood. -/
inductive Token where
  | literal (cs : List Char)
  | field (f : DateField)
deriving DecidableEq, Repr

/-- The text gathered between two fields, if there is any. -/
def Token.gathered (cs : List Char) : List Token := if cs.isEmpty then [] else [.literal cs]

/-- The tokens of some parts behind the text `gathered` so far. -/
def Token.ofParts (gathered : List Char) : List Part → Except PatternFault (List Token)
  | [] => .ok (Token.gathered gathered)
  | .text cs :: rest => Token.ofParts (gathered ++ cs) rest
  | .unclosed position :: _ => .error (.unterminatedQuote position)
  | .run c n :: rest =>
    match DateField.ofRun? c n with
    | none => .error (.unsupportedField c n)
    | some f => (Token.ofParts [] rest).map fun ts => Token.gathered gathered ++ .field f :: ts

def Token.render (t : CivilTime) : Token → List Char
  | .literal cs => cs
  | .field f => f.render t

def Token.isWritable : Token → Bool
  | .literal _ => true
  | .field f => f.isWritable

end TimeWindow

/-- A pattern that is understood, with the text it was written in (`TimeWindowPattern`). -/
structure TimeWindow where
  source : String
  tokens : List TimeWindow.Token
deriving DecidableEq, Repr

namespace TimeWindow

def parse (pattern : String) : Except PatternFault TimeWindow :=
  if pattern.isEmpty then .error .empty
  else (Token.ofParts [] (Part.ofPattern pattern.toList)).map (⟨pattern, ·⟩)

/-- The text of an instant under the pattern (`TimeWindowPattern.format`). -/
def render (w : TimeWindow) (t : Instant) : String :=
  String.ofList (w.tokens.flatMap (Token.render t.civil))

/-- Every field can be written. A pattern that asks for more places is understood, but nothing can
be written under it. -/
def isWritable (w : TimeWindow) : Bool := w.tokens.all Token.isWritable

/-- The text of an instant as it is written, if it can be. -/
def written? (w : TimeWindow) (t : Instant) : Option String :=
  if w.isWritable then some (w.render t) else none

end TimeWindow

end Reindex
