import Reindex.Json.Reader

/-!
# Trees of settings

What a configuration is read from, before it is known what each setting means. A tree of settings
knows more kinds of values than JSON: a single letter apart from a text, infinite numbers, and
numbers that are none. `Setting.json?` gives the JSON value that a tree stands for.
-/

namespace Reindex

inductive Setting where
  | null
  | bool (b : Bool)
  | number (n : Number)
  | text (s : String)
  | letter (c : Char)
  | list (items : List Setting)
  /-- The members in ascending order of their names, each name once. -/
  | table (members : List (String × Setting))
deriving Repr, Inhabited

namespace Setting

/-- The table with the given members; the last of several with one name counts. -/
def ofMembers (members : List (String × Setting)) : Setting := .table (Entries.ofList members)

def asTable? : Setting → Option (List (String × Setting))
  | .table members => some members
  | _ => none

/-- A text of any length, for which a letter does not count. -/
def asWord? : Setting → Option String
  | .text s => some s
  | _ => none

/-- A text, which a letter is too. -/
def asText? : Setting → Option String
  | .text s => some s
  | .letter c => some (String.singleton c)
  | _ => none

def asBool? : Setting → Option Bool
  | .bool b => some b
  | _ => none

/-- The value of a number that is an integer and not negative. -/
def asNat? : Setting → Option Nat
  | .number (.natural n) => some n
  | _ => none

def isNull : Setting → Bool
  | .null => true
  | _ => false

mutual
/-- The tree of a JSON value. -/
def ofJson : Json → Setting
  | .null => .null
  | .bool b => .bool b
  | .number n => .number n
  | .string s => .text s
  | .array items => .list (ofItems items)
  | .object members => .table (ofEntries members)
def ofItems : List Json → List Setting
  | [] => []
  | j :: rest => ofJson j :: ofItems rest
def ofEntries : List (String × Json) → List (String × Setting)
  | [] => []
  | (k, j) :: rest => (k, ofJson j) :: ofEntries rest
end

/-- The text of a JSON value that a table quotes: its first member has the name for that. -/
def quoted? : List (String × Setting) → Option Setting
  | (k, v) :: _ => if k = Json.Reader.quotedKey then some v else none
  | [] => none

mutual
/-- The JSON value of a tree. Numbers that JSON cannot write are null; none if a table should quote
a value and does not. -/
def json? : Setting → Option Json
  | .null => some .null
  | .bool b => some (.bool b)
  | .number (.binary .nan) | .number (.binary (.infinite _)) => some .null
  | .number n => some (.number n)
  | .text s => some (.string s)
  | .letter c => some (.string (String.singleton c))
  | .list items => (jsonItems? items).map .array
  | .table members =>
    match quoted? members with
    | some v => do (Json.parse (← v.asText?)).toOption
    | none => (jsonMembers? members).map .object
def jsonItems? : List Setting → Option (List Json)
  | [] => some []
  | v :: rest => do return (← json? v) :: (← jsonItems? rest)
def jsonMembers? : List (String × Setting) → Option (List (String × Json))
  | [] => some []
  | (k, v) :: rest => do return (k, ← json? v) :: (← jsonMembers? rest)
end

mutual
/-- Two trees in one: tables are merged member by member, and elsewhere the second one counts. -/
def merge : Setting → Setting → Setting
  | .table base, .table top => .table (mergeMembers base top)
  | _, top => top
/-- Members put into others; those under one name are merged. -/
def mergeMembers (base : List (String × Setting)) :
    List (String × Setting) → List (String × Setting)
  | [] => base
  | (k, v) :: rest =>
    let merged := match Entries.get? k base with
      | some old => merge old v
      | none => v
    mergeMembers (Entries.insert k merged base) rest
end

end Setting

end Reindex
