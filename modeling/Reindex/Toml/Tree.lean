import Reindex.Config.Setting

/-!
# Tables of a TOML text

While a text is read its tables are a tree that remembers how each table came to be, because a table
that was named by a header, or closed in braces, cannot be reopened by other means. Of the finished
tree some tables stand for values: `settle` puts those in.
-/

namespace Reindex.Toml

/-- How a table came to be. -/
inductive TableKind where
  /-- A header names it. -/
  | named
  /-- A header names a table inside it. -/
  | passed
  /-- A key with points names something inside it. -/
  | dotted
deriving DecidableEq, Repr

inductive Node where
  | value (v : Setting)
  | table (kind : TableKind) (members : List (String × Node))
  /-- An array of tables, the latest first. -/
  | tables (elements : List (List (String × Node)))

abbrev Members := List (String × Node)

/-- A value put under a key with points. None if the place is taken, or a table on the way cannot be
extended by such a key. -/
def put : List String → Setting → Members → Option Members
  | [], _, _ => none
  | [k], v, ms => if (Entries.get? k ms).isSome then none else some (Entries.insert k (.value v) ms)
  | k :: ks, v, ms =>
    let last := ks.length == 1
    match Entries.get? k ms with
    | none => (put ks v []).map fun inner => Entries.insert k (.table .dotted inner) ms
    | some (.table .dotted inner) => (put ks v inner).map fun inner =>
      Entries.insert k (.table .dotted inner) ms
    | some (.table .passed inner) =>
      if last then none else (put ks v inner).map fun inner =>
        Entries.insert k (.table .passed inner) ms
    | some (.tables (inner :: before)) =>
      if last then none else (put ks v inner).map fun inner =>
        Entries.insert k (.tables (inner :: before)) ms
    | some _ => none

/-- A change of the table that headers lead to; tables on the way are made where they are
missing. -/
def within (f : Members → Option Members) : List String → Members → Option Members
  | [], ms => f ms
  | k :: ks, ms =>
    match Entries.get? k ms with
    | none => (within f ks []).map fun inner => Entries.insert k (.table .passed inner) ms
    | some (.table kind inner) => (within f ks inner).map fun inner => Entries.insert k
        (.table kind inner) ms
    | some (.tables (inner :: before)) =>
      (within f ks inner).map fun inner => Entries.insert k (.tables (inner :: before)) ms
    | some _ => none

/-- The table that a header opens. -/
def openTable (k : String) (ms : Members) : Option Members :=
  match Entries.get? k ms with
  | none => some (Entries.insert k (.table .named []) ms)
  | some (.table .passed inner) => some (Entries.insert k (.table .named inner) ms)
  | some _ => none

/-- The next table of an array, which a header in double brackets opens. -/
def openElement (k : String) (ms : Members) : Option Members :=
  match Entries.get? k ms with
  | none => some (Entries.insert k (.tables [[]]) ms)
  | some (.tables elements) => some (Entries.insert k (.tables ([] :: elements)) ms)
  | some _ => none

mutual
def Node.toSetting : Node → Setting
  | .value v => v
  | .table _ members => .table (membersToSettings members)
  | .tables elements => .list (elementsToSettings elements).reverse
def membersToSettings : List (String × Node) → List (String × Setting)
  | [] => []
  | (k, n) :: rest => (k, n.toSetting) :: membersToSettings rest
def elementsToSettings : List (List (String × Node)) → List Setting
  | [] => []
  | ms :: rest => .table (membersToSettings ms) :: elementsToSettings rest
end

/-! ## Tables that stand for values -/

/-- A table with a member of this name is refused. -/
def reservedKey : String := "___figment_value_id"

/-- A table with a member of this name stands for the value of the member. -/
def insteadKey : String := "___figment_value_value"

/-- The value that stands for a table among others. -/
def instead? (members : List (String × Setting)) : Option Setting :=
  if (Entries.get? reservedKey members).isSome then none
  else some ((Entries.get? insteadKey members).getD (.table members))

mutual
/-- A tree with the values in the places of the tables that stand for them; none if one is
refused. -/
def settle : Setting → Option Setting
  | .list items => (settleItems items).map .list
  | .table members => do instead? (← settleMembers members)
  | v => some v
def settleItems : List Setting → Option (List Setting)
  | [] => some []
  | v :: rest => do return (← settle v) :: (← settleItems rest)
def settleMembers : List (String × Setting) → Option (List (String × Setting))
  | [] => some []
  | (k, v) :: rest => do return (k, ← settle v) :: (← settleMembers rest)
end

end Reindex.Toml
