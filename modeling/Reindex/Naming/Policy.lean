import Reindex.Error

/-!
# Naming the index of a run

A policy is a base name, perhaps a time window, and whether the run updates an index that is in
service. With a time window a run mints a fresh name behind the base name as alias. Otherwise the
run writes into the one index behind the alias that is numbered after the base name, or into the
index of that very name.

Main statement: `pickCandidate_eq_ok_iff` says when an alias table leaves no doubt.
-/

namespace Reindex

/-- The index that a run writes into, and the alias in front of it (`IndexIdentity`). -/
structure Identity where
  aliasName : Option String
  index : String
deriving DecidableEq, Repr

/-- An index without an alias. -/
def Identity.direct (index : String) : Identity := ⟨none, index⟩

/-- An index behind an alias (`IndexIdentity.aliased`). -/
def Identity.behind (aliasName index : String) : Identity := ⟨some aliasName, index⟩

/-- Refuses a name that is not legal. -/
def checkName (name : String) : Except Error Unit :=
  match nameFault? name with
  | some fault => .error (.invalidIndexName name fault)
  | none => .ok ()

/-- The part of a text behind another one that it starts with. -/
def stripStart? : List Char → List Char → Option (List Char)
  | [], cs => some cs
  | _ :: _, [] => none
  | b :: bs, c :: cs => if b = c then stripStart? bs cs else none

/-- The base name followed by one or more of the digits 0 to 9 and nothing else. -/
def isNumberedSibling (base name : String) : Bool :=
  match stripStart? base.toList name.toList with
  | some tail => !tail.isEmpty && tail.all Char.isDigit
  | none => false

/-- The numbered siblings of a base name among the indices of an alias table, in order. -/
def candidates (base : String) (table : AliasTable) : List String :=
  table.keys.filter (isNumberedSibling base)

/-- The identity that an alias table gives to a base name. -/
def pickCandidate (base : String) (table : AliasTable) : Except Error Identity :=
  match candidates base table with
  | [] => .ok (.direct base)
  | [only] => .ok (.behind base only)
  | many => .error (.aliasAmbiguity base many)

theorem pickCandidate_eq_ok_iff (base : String) (table : AliasTable) (i : Identity) :
    pickCandidate base table = .ok i ↔
      (candidates base table = [] ∧ i = .direct base) ∨
      ∃ only, candidates base table = [only] ∧ i = .behind base only := by
  simp only [pickCandidate]
  split
  · rename_i h; simp [h, eq_comm]
  · rename_i only h; simp [h, eq_comm]
  · rename_i h0 h1
    constructor
    · intro h; cases h
    · rintro (⟨h, -⟩ | ⟨only, h, -⟩)
      · exact absurd h h0
      · exact absurd h (h1 only)

structure NamingPolicy where
  base : String
  window : Option TimeWindow
  /-- The run updates an index that is in service, and mints no name. -/
  update : Bool
deriving DecidableEq, Repr

namespace NamingPolicy

/-- A policy with a legal base name and, if there is a pattern, one that is understood
(`NamingPolicy.new`). -/
def make (base : String) (pattern : Option String) (update : Bool) : Except Error NamingPolicy := do
  checkName base
  match pattern with
  | none => return ⟨base, none, update⟩
  | some pattern =>
    match TimeWindow.parse pattern with
    | .ok window => return ⟨base, some window, update⟩
    | .error fault => .error (.invalidTimeWindow pattern fault)

/-- The time window that mints the name, if a name is minted. -/
def minting? (p : NamingPolicy) : Option TimeWindow := if p.update then none else p.window

/-- The name that a window gives at an instant. -/
def mint (p : NamingPolicy) (window : TimeWindow) (now : Instant) : Except Error Identity :=
  let index := p.base ++ window.render now
  (checkName index).map fun _ => .behind p.base index

/-- The index that a run at an instant writes into. The cluster is asked only if no name is
minted. -/
def resolve {σ τ : Type} (p : NamingPolicy) (cluster : Cluster σ τ) (now : Instant) :
    EStateM Error σ Identity := do
  match p.minting? with
  | some window => ofExcept (p.mint window now)
  | none => ofExcept (pickCandidate p.base (← call (cluster.aliases (.ofAlias p.base))))

end NamingPolicy

end Reindex
