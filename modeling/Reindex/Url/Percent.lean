import Reindex.Text.Digits

/-!
# Percent encoding

A character that may not stand in a part of a URL is written as its UTF-8 bytes, each as a percent
sign and two hexadecimal digits. Which ASCII characters are written so depends on the part; all
other characters always are.
-/

namespace Reindex.Url

/-- A hexadecimal digit in upper case. -/
def upperHexDigit (n : Nat) : Char :=
  if n < 10 then Char.ofNat (0x30 + n) else Char.ofNat (0x37 + n)

/-- One byte, encoded. -/
def encodeByte (b : UInt8) : List Char :=
  ['%', upperHexDigit (b.toNat / 16), upperHexDigit (b.toNat % 16)]

def isControl (c : Char) : Bool := c.toNat < 0x20 || c.toNat = 0x7F

/-- Characters encoded in a fragment. -/
def inFragmentSet (c : Char) : Bool := isControl c || c ∈ [' ', '"', '<', '>', '\x60']

/-- Characters encoded in a query; a quote only where the scheme is a special one. -/
def inQuerySet (special : Bool) (c : Char) : Bool :=
  isControl c || c ∈ [' ', '"', '#', '<', '>'] || (special && c == '\'')

/-- Characters encoded in a path. -/
def inPathSet (c : Char) : Bool := inFragmentSet c || c ∈ ['#', '?', '\x7b', '\x7d']

/-- Characters encoded in one segment of a path that is added to a URL. -/
def inSegmentSet (special : Bool) (c : Char) : Bool :=
  inPathSet c || c ∈ ['/', '%'] || (special && c == '\\')

/-- Characters encoded in a user name or a password. -/
def inUserinfoSet (c : Char) : Bool :=
  inPathSet c || c ∈ ['/', ':', ';', '=', '@', '[', '\\', ']', '^', '|']

/-- A text with the characters of a set encoded, and all that are not ASCII. -/
def percentEncode (inSet : Char → Bool) (cs : List Char) : List Char :=
  cs.flatMap fun c =>
    if c.toNat < 0x80 && !inSet c then [c] else (String.utf8EncodeChar c).flatMap encodeByte

/-- The bytes that a text stands for; a percent sign without two digits stands for itself. -/
def percentDecode : List Char → List UInt8
  | [] => []
  | '%' :: a :: b :: rest =>
    match Text.hexValue? a, Text.hexValue? b with
    | some h, some l => UInt8.ofNat (16 * h + l) :: percentDecode rest
    | _, _ => 0x25 :: percentDecode (a :: b :: rest)
  | c :: rest => String.utf8EncodeChar c ++ percentDecode rest

end Reindex.Url
