import Reindex.Text.Uppercase

/-!
# Legal index names

A name is refused here for the same reasons for which a cluster would refuse it. Where a name breaks
several rules, the first in the order of `nameFault?` is the one reported.
-/

namespace Reindex

/-- The rule that a name breaks. -/
inductive NameFault where
  | empty
  | reserved
  | badStart
  | uppercase
  | forbiddenCharacter
  | tooLong
deriving DecidableEq, Repr

def NameFault.reason : NameFault → String
  | .empty => "the name is empty"
  | .reserved => "'.' and '..' are reserved"
  | .badStart => "names cannot start with '-', '_' or '+'"
  | .uppercase => "names must be lowercase"
  | .forbiddenCharacter => "names cannot contain \\ / * ? \" < > | , # or spaces"
  | .tooLong => "names are limited to 255 bytes"

/-- Characters that no name contains. -/
def isForbiddenInName (c : Char) : Bool :=
  c ∈ ['\\', '/', '*', '?', '"', '<', '>', '|', ',', '#', ' ']

/-- The most bytes that a name may have. -/
def maxNameBytes : Nat := 255

/-- The first rule that a name breaks, if any (`validate_index_name`). -/
def nameFault? (name : String) : Option NameFault :=
  let cs := name.toList
  if cs.isEmpty then some .empty
  else if name = "." ∨ name = ".." then some .reserved
  else if cs.head? ∈ [some '-', some '_', some '+'] then some .badStart
  else if cs.any Text.isUppercase then some .uppercase
  else if cs.any isForbiddenInName then some .forbiddenCharacter
  else if name.utf8ByteSize > maxNameBytes then some .tooLong
  else none

end Reindex
