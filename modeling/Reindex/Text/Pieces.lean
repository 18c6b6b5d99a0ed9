/-!
# Pieces of a text

Cutting a text at a separator and putting pieces together with one between them.
-/

namespace Reindex.Text

/-- The pieces of a text between separators. -/
def splitOn (sep : Char) : List Char → List (List Char)
  | [] => [[]]
  | c :: rest =>
    if c = sep then [] :: splitOn sep rest
    else
      match splitOn sep rest with
      | piece :: pieces => (c :: piece) :: pieces
      | [] => [[c]]

/-- Pieces joined by a separator. -/
def joinWith (sep : List Char) : List (List Char) → List Char
  | [] => []
  | [piece] => piece
  | piece :: pieces => piece ++ sep ++ joinWith sep pieces

theorem splitOn_ne_nil (sep : Char) (cs : List Char) : splitOn sep cs ≠ [] := by
  cases cs with
  | nil => simp [splitOn]
  | cons c rest =>
    rw [splitOn]
    split
    · simp
    · split <;> simp

end Reindex.Text
