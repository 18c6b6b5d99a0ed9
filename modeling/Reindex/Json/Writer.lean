import Reindex.Json.Basic

/-!
# Compact JSON text

A value on one line: no blanks, members in ascending order of their names, and in strings only the
quote, the backslash and control characters escaped.
-/

namespace Reindex.Json

/-- One hexadecimal digit in lower case. -/
def hexDigit (n : Nat) : Char := Nat.digitChar n

/-- A character inside a JSON string. -/
def escapeChar (c : Char) : List Char :=
  if c = '"' then ['\\', '"']
  else if c = '\\' then ['\\', '\\']
  else if c.toNat < 0x20 then
    if c = '\x08' then ['\\', 'b']
    else if c = '\x0C' then ['\\', 'f']
    else if c = '\n' then ['\\', 'n']
    else if c = '\r' then ['\\', 'r']
    else if c = '\t' then ['\\', 't']
    else ['\\', 'u', '0', '0', hexDigit (c.toNat / 16), hexDigit (c.toNat % 16)]
  else [c]

/-- A JSON string with its quotes. -/
def renderString (s : String) : List Char := '"' :: s.toList.flatMap escapeChar ++ ['"']

def renderNumber : Number → List Char
  | .natural n => Nat.toDigits 10 n
  | .negative n => '-' :: Nat.toDigits 10 n
  | .binary x => x.jsonText.toList

mutual
/-- The characters of the compact text. -/
def render : Json → List Char
  | .null => ['n', 'u', 'l', 'l']
  | .bool true => ['t', 'r', 'u', 'e']
  | .bool false => ['f', 'a', 'l', 's', 'e']
  | .number n => renderNumber n
  | .string s => renderString s
  | .array [] => ['[', ']']
  | .array (item :: items) => '[' :: render item ++ renderItems items
  | .object [] => ['\x7b', '\x7d']
  | .object ((k, v) :: members) => '\x7b' :: renderString k ++ ':' :: render v ++
      renderMembers members
/-- What follows an item up to the end of its array. -/
def renderItems : List Json → List Char
  | [] => [']']
  | item :: items => ',' :: render item ++ renderItems items
/-- What follows a member up to the end of its object. -/
def renderMembers : List (String × Json) → List Char
  | [] => ['\x7d']
  | (k, v) :: members => ',' :: renderString k ++ ':' :: render v ++ renderMembers members
end

/-- The compact text of a value. -/
def text (j : Json) : String := String.ofList j.render

end Reindex.Json
