import Reindex.Json.Scan
import Reindex.Operation

/-!
# Record lines

A record is one line of JSON: an object with `id`, perhaps `op`, and `doc` unless it deletes. The
document is kept as the text in which it is written; other members are passed over. The same three
values may also stand in an array.
-/

namespace Reindex

/-- One operation as a record file gives it; `doc` is a JSON text. -/
structure Record where
  op : OpKind
  id : String
  doc : Option String
deriving DecidableEq, Repr

/-- Why a line is no record. -/
inductive LineFault where
  | notAnObject
  | emptyId
  | missingDoc (op : OpKind) (id : String)
deriving DecidableEq, Repr

def LineFault.message : LineFault → String
  | .notAnObject => "💀 record is not a valid JSON object"
  | .emptyId => "💀 record has an empty 'id'"
  | .missingDoc op id => "💀 '" ++ op.name ++ "' record '" ++ id ++ "' has no 'doc'"

namespace Record

open Json.Reader (skipSpaces stringBody)

/-- What was read of a record so far; the inner option of `doc` is none for `null`. -/
structure Members where
  id : Option String := none
  op : Option OpKind := none
  doc : Option (Option String) := none
deriving DecidableEq, Repr

/-- A string and what follows. -/
def readString (cs : List Char) : Option (String × List Char) :=
  match skipSpaces cs with
  | '"' :: rest => (stringBody [] rest).toOption.map fun (s, rest) => (String.ofList s, rest)
  | _ => none

/-- Past a character and the spaces before it. -/
def expect (c : Char) (cs : List Char) : Option (List Char) :=
  match skipSpaces cs with
  | d :: rest => if d = c then some rest else none
  | [] => none

/-- The kind of an operation: its name, or an object with that name and null. -/
def readKind (cs : List Char) : Option (OpKind × List Char) := do
  match skipSpaces cs with
  | '\x7b' :: rest =>
    let (name, rest) ← readString rest
    let rest ← expect ':' rest
    let kind ← OpKind.ofName? name
    let rest ← Json.Scan.word ['n', 'u', 'l', 'l'] (skipSpaces rest)
    let rest ← expect '\x7d' rest
    return (kind, rest)
  | rest =>
    let (name, rest) ← readString rest
    return (← OpKind.ofName? name, rest)

/-- A document as text; none for `null`. -/
def readDoc (cs : List Char) : Option (Option String × List Char) := do
  match skipSpaces cs with
  | 'n' :: rest =>
    let rest ← Json.Scan.word ['u', 'l', 'l'] rest
    return (none, rest)
  | rest =>
    let (text, rest) ← Json.Scan.raw rest
    return (some (String.ofList text), rest)

/-- The value of a member. A member of a record that was read before is refused. -/
def readMember (m : Members) (name : String) (cs : List Char) : Option (Members × List Char) := do
  match name with
  | "id" =>
    if m.id.isSome then none
    else
      let (id, rest) ← readString cs
      return ({ m with id := some id }, rest)
  | "op" =>
    if m.op.isSome then none
    else
      let (op, rest) ← readKind cs
      return ({ m with op := some op }, rest)
  | "doc" =>
    if m.doc.isSome then none
    else
      let (doc, rest) ← readDoc cs
      return ({ m with doc := some doc }, rest)
  | _ =>
    let (_, rest) ← Json.Scan.raw cs
    return (m, rest)

/-- Members up to the closing brace, from before the first name. -/
def readMembers : Nat → Members → List Char → Option (Members × List Char)
  | 0, _, _ => none
  | fuel + 1, m, cs => do
    let (name, rest) ← readString cs
    let (m, rest) ← readMember m name (← expect ':' rest)
    match skipSpaces rest with
    | ',' :: rest => readMembers fuel m rest
    | '\x7d' :: rest => return (m, rest)
    | _ => none

/-- The values of an array up to its closing bracket, named in turn. -/
def readItems : List String → Members → List Char → Option (Members × List Char)
  | [], _, _ => none
  | name :: names, m, cs => do
    let (m, rest) ← readMember m name cs
    match skipSpaces rest with
    | ',' :: rest => readItems names m rest
    | ']' :: rest => return (m, rest)
    | _ => none

/-- The members of the object or the array that fills a line. -/
def readLine (cs : List Char) : Option Members := do
  let (m, rest) ← match skipSpaces cs with
    | '\x7b' :: rest =>
      match skipSpaces rest with
      | '\x7d' :: rest => some ({}, rest)
      | rest => readMembers (rest.length + 1) {} rest
    | '[' :: rest => readItems ["id", "op", "doc"] {} rest
    | _ => none
  if (skipSpaces rest).isEmpty then some m else none

/-- The record that a line writes (`parse_record`). -/
def parse (line : String) : Except LineFault Record :=
  match readLine line.toList with
  | none | some { id := none, .. } => .error .notAnObject
  | some { id := some id, op, doc } =>
    let op := op.getD .index
    if id.isEmpty then .error .emptyId
    else if op = .delete then .ok ⟨op, id, none⟩
    else
      match doc.getD none with
      | some doc => .ok ⟨op, id, some doc⟩
      | none => .error (.missingDoc op id)

/-- The operation of a record. -/
def operation (r : Record) : Operation := ⟨r.op, r.id, r.doc⟩

end Record

end Reindex
