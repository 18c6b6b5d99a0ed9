import Reindex.Json.Reader

/-!
# The extent of a JSON value

Finding where a value ends without building it. A document inside a record is carried as the text
it was written in, so all that has to be known is that it is one JSON value and how far it goes.
Nesting is not limited, numbers may be of any size, and an escaped surrogate may stand alone.

Each function takes the text at the front of which it looks and returns what follows, or none.
-/

namespace Reindex.Json.Scan

open Reader (isDigit skipSpaces hex4? shortEscape?)

/-- Past a string, from after its opening quote. -/
def string : List Char → Option (List Char)
  | [] => none
  | '"' :: rest => some rest
  | '\\' :: 'u' :: a :: b :: c :: d :: rest => if (hex4? a b c d).isSome then string rest else none
  | '\\' :: c :: rest => if (shortEscape? c).isSome then string rest else none
  | c :: rest => if c = '\\' ∨ c.toNat < 0x20 then none else string rest

/-- Past one or more digits. -/
def digits (cs : List Char) : Option (List Char) :=
  if (cs.head?.map isDigit).getD false then some (cs.dropWhile isDigit) else none

/-- Past an exponent, if there is one. -/
def exponent : List Char → Option (List Char)
  | 'e' :: '+' :: rest | 'E' :: '+' :: rest | 'e' :: '-' :: rest | 'E' :: '-' :: rest => digits rest
  | 'e' :: rest | 'E' :: rest => digits rest
  | rest => some rest

/-- Past a number, from after its sign. A zero in front of other digits is refused. -/
def number (cs : List Char) : Option (List Char) := do
  let rest ← digits cs
  if cs.head? = some '0' ∧ cs.length ≠ rest.length + 1 then none
  else
    match rest with
    | '.' :: rest => exponent (← digits rest)
    | rest => exponent rest

/-- Past the given characters. -/
def word : List Char → List Char → Option (List Char)
  | [], cs => some cs
  | w :: ws, c :: cs => if w = c then word ws cs else none
  | _ :: _, [] => none

mutual
/-- Past one value and the spaces in front of it; `fuel` bounds the steps. -/
def value : Nat → List Char → Option (List Char)
  | 0, _ => none
  | fuel + 1, cs =>
    match skipSpaces cs with
    | [] => none
    | 'n' :: rest => word ['u', 'l', 'l'] rest
    | 't' :: rest => word ['r', 'u', 'e'] rest
    | 'f' :: rest => word ['a', 'l', 's', 'e'] rest
    | '-' :: rest => number rest
    | '"' :: rest => string rest
    | '[' :: rest =>
      match skipSpaces rest with
      | ']' :: rest => some rest
      | rest => items fuel rest
    | '\x7b' :: rest =>
      match skipSpaces rest with
      | '\x7d' :: rest => some rest
      | rest => members fuel rest
    | rest => number rest
/-- Past one or more items and the bracket that closes their array. -/
def items : Nat → List Char → Option (List Char)
  | 0, _ => none
  | fuel + 1, cs => do
    match skipSpaces (← value fuel cs) with
    | ',' :: rest => items fuel rest
    | ']' :: rest => some rest
    | _ => none
/-- Past one or more members and the brace that closes their object. -/
def members : Nat → List Char → Option (List Char)
  | 0, _ => none
  | fuel + 1, cs =>
    match skipSpaces cs with
    | '"' :: rest => do
      match skipSpaces (← string rest) with
      | ':' :: rest =>
        match skipSpaces (← value fuel rest) with
        | ',' :: rest => members fuel rest
        | '\x7d' :: rest => some rest
        | _ => none
      | _ => none
    | _ => none
end

/-- The text of the value at the front, without the spaces before it, and what follows. -/
def raw (cs : List Char) : Option (List Char × List Char) := do
  let start := skipSpaces cs
  let rest ← value (2 * start.length + 2) start
  return (start.take (start.length - rest.length), rest)

end Reindex.Json.Scan
