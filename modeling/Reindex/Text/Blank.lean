/-!
# Blanks

Blank characters are those with the Unicode property White_Space. Record lines are trimmed of them
at both ends.
-/

namespace Reindex.Text

/-- The Unicode property White_Space. -/
def isBlank (c : Char) : Bool :=
  c.isWhitespace || c == '\x0B' || c == '\x0C' || c == '\x85' || c == '\xA0' || c == '\u1680' ||
  ('\u2000' ≤ c && c ≤ '\u200A') || c == '\u2028' || c == '\u2029' || c == '\u202F' ||
  c == '\u205F' || c == '\u3000'

/-- The text without the blanks at its end. -/
def trimEnd (cs : List Char) : List Char := (cs.reverse.dropWhile isBlank).reverse

/-- The text without the blanks at both ends. -/
def trim (cs : List Char) : List Char := trimEnd (cs.dropWhile isBlank)

end Reindex.Text
