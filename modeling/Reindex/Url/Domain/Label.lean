import Reindex.Text.Composed
import Reindex.Text.Direction
import Reindex.Text.Joining
import Reindex.Url.Domain.Mapping
import Reindex.Url.Domain.Punycode

/-!
# Labels of domain names

The parts of a domain between full stops. A label that begins with `xn--` stands for another text in
Punycode; a label with other letters than those of ASCII is written so. What a label may hold is
checked on the text that it stands for: no mark at its beginning, joiners only where they are seen
to join or to part, and, in a domain with letters written from right to left, one direction in each
label.
-/

namespace Reindex.Url.Domain

open Text

/-- A label: the text that it stands for, and how it is written in ASCII. -/
structure Label where
  text : List Char
  ascii : List Char

namespace Label

/-! ## Joiners -/

/-- A sign by which a consonant loses its vowel has this combining class. -/
def viramaClass : Nat := 9

/-- The nearest character that is not transparent is joined towards the one who asks. -/
def reaches (side : Joining) (cs : List Char) : Bool :=
  match (cs.dropWhile (joining · == .transparent)).head? with
  | some c => joining c == side || joining c == .both
  | none => false

/-- A joiner between the characters before it, latest first, and those behind it does something: it
stands behind a sign that takes a vowel away, or parts two letters that would be joined. -/
def isFit (joiner : Char) (before behind : List Char) : Bool :=
  (before.head?.any (combiningClass · == viramaClass)) ||
    (joiner == '\u200C' && reaches .behind before && reaches .before behind)

/-- All joiners of a text are fit, behind the characters in `before`, latest first. -/
def joinersFit (before : List Char) : List Char → Bool
  | [] => true
  | c :: rest => (!isJoiner c || isFit c before rest) && joinersFit (c :: before) rest

/-- No mark at the beginning, and all joiners fit. -/
def isWellFormed (text : List Char) : Bool := !(text.head?.any isMark) && joinersFit [] text

/-! ## Direction -/

/-- A text by which a whole domain is one that is written from right to left in parts. -/
def isTwoWay (text : List Char) : Bool := text.any fun c => direction c ∈ [.right, .arabicNumber]

/-- The directions of a text, latest first, without the marks at its end. -/
def trimmedDirections (text : List Char) : List Direction :=
  (text.map direction).reverse.dropWhile (· == .mark)

/-- A text has one direction: from left to right it begins with a letter and ends in a letter or a
number; from right to left it has no letter of the other kind, and numbers of one kind. -/
def hasOneDirection (text : List Char) : Bool :=
  match text.head?.map direction with
  | none => true
  | some .left =>
    let ds := trimmedDirections text
    ds.head?.all (· ∈ [.left, .number]) && ds.all (· ∉ [.right, .arabicNumber])
  | some .right =>
    let ds := trimmedDirections text
    ds.head?.all (· ∈ [.right, .number, .arabicNumber]) && ds.all (· ≠ .left) &&
      !(ds.contains .number && ds.contains .arabicNumber)
  | some _ => false

/-! ## Reading -/

def punycodeMark : List Char := ['x', 'n', '-', '-']

/-- The most characters behind the mark. -/
def longestPunycode : Nat := 2000

/-- The most characters that are written in Punycode. -/
def longestText : Nat := 1000

/-- A text as Punycode could stand for it: in its final form, and not marked as Punycode itself. -/
def isFinal (text : List Char) : Bool :=
  text.all (fun c => mapped? c == some [c]) && compose text == text && text.take 4 != punycodeMark

/-- The text that Punycode stands for. -/
def decode? (cs : List Char) : Option (List Char) := do
  if cs.isEmpty || cs.getLast? == some '-' || cs.length > longestPunycode || !cs.all Punycode.isBasic then none
  else
    let text ← Punycode.decode? cs
    if isFinal text then some text else none

/-- A text in ASCII. -/
def encode? (text : List Char) : Option (List Char) :=
  if text.all Punycode.isBasic then some text
  else if text.length > longestText then none
  else some (punycodeMark ++ Punycode.encode text)

/-- A label from its characters in their final form. -/
def read? (cs : List Char) : Option Label := do
  let label ←
    if cs.take 4 = punycodeMark then (decode? (cs.drop 4)).map (⟨·, cs⟩) else (encode? cs).map (⟨cs, ·⟩)
  if isWellFormed label.text then some label else none

end Label

end Reindex.Url.Domain
