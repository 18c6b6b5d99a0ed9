import Reindex.Text.Digits
import Reindex.Text.Pieces

/-!
# Tables of characters

Long tables are kept as rows of hexadecimal code points. A row is read by `readCodes`: words between
blanks stand for texts, `61+62` for one text of two characters and `61-63` for three of one
character.
-/

namespace Reindex.Text

/-- The characters that numbers between plus signs name. -/
def codeText (word : List Char) : List Char := (splitOn '+' word).filterMap codePoint?

/-- The texts that a word stands for. -/
def codeTexts (word : List Char) : List (List Char) :=
  match (splitOn '-' word).map codePoint? with
  | [some a, some b] => (List.range (b.toNat + 1 - a.toNat)).map fun i => [Char.ofNat (a.toNat + i)]
  | _ => [codeText word]

/-- The texts that a row stands for. -/
def readCodes (row : String) : List (List Char) := (splitOn ' ' row.toList).flatMap codeTexts

end Reindex.Text
