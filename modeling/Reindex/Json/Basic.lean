import Reindex.Binary64.Decimal
import Reindex.Dict

/-!
# JSON values

Settings, mappings, alias filters and documents are JSON. An object lists its members in ascending
order of their names, each name once; a number is an integer where it fits 64 bits and a binary64
number elsewhere.
-/

namespace Reindex

/-- The numbers JSON texts carry. -/
inductive Number where
  /-- An integer from zero up to `2 ^ 64 - 1`. -/
  | natural (n : Nat)
  /-- The integer `-n`, from `-1` down to `-2 ^ 63`. -/
  | negative (n : Nat)
  | binary (x : Binary64)
deriving DecidableEq, Repr, Inhabited

inductive Json where
  | null
  | bool (b : Bool)
  | number (n : Number)
  | string (s : String)
  | array (items : List Json)
  | object (members : List (String × Json))
deriving Repr, Inhabited

namespace Json

mutual
/-- Whether two values are the same, member by member. -/
def decEq : (a b : Json) → Decidable (a = b)
  | .null, .null => isTrue rfl
  | .bool a, .bool b =>
    if h : a = b then isTrue (h ▸ rfl) else isFalse (fun e => h (Json.bool.inj e))
  | .number a, .number b =>
    if h : a = b then isTrue (h ▸ rfl) else isFalse (fun e => h (Json.number.inj e))
  | .string a, .string b =>
    if h : a = b then isTrue (h ▸ rfl) else isFalse (fun e => h (Json.string.inj e))
  | .array a, .array b =>
    match decEqItems a b with
    | isTrue h => isTrue (h ▸ rfl)
    | isFalse h => isFalse (fun e => h (Json.array.inj e))
  | .object a, .object b =>
    match decEqMembers a b with
    | isTrue h => isTrue (h ▸ rfl)
    | isFalse h => isFalse (fun e => h (Json.object.inj e))
  | .null, .bool _ | .null, .number _ | .null, .string _ | .null, .array _ | .null, .object _
  | .bool _, .null | .bool _, .number _ | .bool _, .string _ | .bool _, .array _
  | .bool _, .object _
  | .number _, .null | .number _, .bool _ | .number _, .string _ | .number _, .array _
  | .number _, .object _
  | .string _, .null | .string _, .bool _ | .string _, .number _ | .string _, .array _
  | .string _, .object _
  | .array _, .null | .array _, .bool _ | .array _, .number _ | .array _, .string _
  | .array _, .object _
  | .object _, .null | .object _, .bool _ | .object _, .number _ | .object _, .string _
  | .object _, .array _ =>
    isFalse (fun e => nomatch e)
def decEqItems : (a b : List Json) → Decidable (a = b)
  | [], [] => isTrue rfl
  | [], _ :: _ | _ :: _, [] => isFalse (fun e => nomatch e)
  | a :: as, b :: bs =>
    match decEq a b, decEqItems as bs with
    | isTrue h, isTrue hs => isTrue (h ▸ hs ▸ rfl)
    | isFalse h, _ => isFalse (fun e => h (List.cons.inj e).1)
    | _, isFalse h => isFalse (fun e => h (List.cons.inj e).2)
def decEqMembers : (a b : List (String × Json)) → Decidable (a = b)
  | [], [] => isTrue rfl
  | [], _ :: _ | _ :: _, [] => isFalse (fun e => nomatch e)
  | (k, a) :: as, (l, b) :: bs =>
    if hk : k = l then
      match decEq a b, decEqMembers as bs with
      | isTrue h, isTrue hs => isTrue (hk ▸ h ▸ hs ▸ rfl)
      | isFalse h, _ => isFalse (fun e => h (Prod.mk.inj (List.cons.inj e).1).2)
      | _, isFalse h => isFalse (fun e => h (List.cons.inj e).2)
    else isFalse (fun e => hk (Prod.mk.inj (List.cons.inj e).1).1)
end

instance : DecidableEq Json := decEq

/-- The object with the given members; the last of several with one name counts. -/
def ofMembers (members : List (String × Json)) : Json := .object (Entries.ofList members)

/-- An integer of 64 bits without sign. -/
def ofNat (n : Nat) : Json := .number (.natural n)

/-- The value of a member; none for what is no object. -/
def get? (key : String) : Json → Option Json
  | .object members => Entries.get? key members
  | _ => none

def asObject? : Json → Option (List (String × Json))
  | .object members => some members
  | _ => none

def asArray? : Json → Option (List Json)
  | .array items => some items
  | _ => none

def asString? : Json → Option String
  | .string s => some s
  | _ => none

def asBool? : Json → Option Bool
  | .bool b => some b
  | _ => none

/-- The value of a number that is an integer and not negative. -/
def asNat? : Json → Option Nat
  | .number (.natural n) => some n
  | _ => none

def isNull : Json → Bool
  | .null => true
  | _ => false

end Json

end Reindex
