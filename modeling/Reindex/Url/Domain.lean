import Reindex.Url.Domain.Label
import Reindex.Url.Percent

/-!
# Domain names

The name of a host, in any script, becomes a name in ASCII: its characters are mapped to the plain
letters they stand for and composed, and labels with letters beyond ASCII are written in Punycode.
-/

namespace Reindex.Url.Domain

open Text

/-- Characters that no domain contains. -/
def isForbidden (c : Char) : Bool :=
  isControl c || c ∈ [' ', '#', '/', ':', '<', '>', '?', '@', '[', '\\', ']', '^', '|', '%']

/-- The labels of a domain. -/
def labels? (domain : List Char) : Option (List Label) := do
  let mapped ← domain.mapM mapped?
  (splitOn '.' (compose mapped.flatten)).mapM Label.read?

/-- A domain in ASCII; none if it is no domain, or an empty one. -/
def ascii? (domain : List Char) : Option (List Char) := do
  let labels ← labels? domain
  let ascii := joinWith ['.'] (labels.map (·.ascii))
  let oneWay := labels.all fun l => !Label.isTwoWay l.text
  if ascii.isEmpty || ascii.any isForbidden then none
  else if oneWay || labels.all fun l => Label.hasOneDirection l.text then some ascii
  else none

end Reindex.Url.Domain
