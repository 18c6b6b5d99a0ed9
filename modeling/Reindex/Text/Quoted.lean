import Reindex.Text.Digits
import Reindex.Text.Printable

/-!
# Quoted text in messages

Messages that list names put each into double quotes and write what would not be seen, or would be
misread, as an escape: `["books1", "books2"]`.
-/

namespace Reindex.Text

/-- Lower-case hexadecimal digits. -/
def hexDigits (n : Nat) : List Char := Nat.toDigits 16 n

/-- One character of a quoted text. -/
def quoteChar (c : Char) : List Char :=
  if c = '\x00' then ['\\', '0']
  else if c = '\t' then ['\\', 't']
  else if c = '\r' then ['\\', 'r']
  else if c = '\n' then ['\\', 'n']
  else if c = '\\' then ['\\', '\\']
  else if c = '"' then ['\\', '"']
  else if isExtender c || !isPrintable c then '\\' :: 'u' :: '\x7b' :: hexDigits c.toNat ++ ['\x7d']
  else [c]

/-- A text in double quotes. -/
def quoted (s : String) : String :=
  String.ofList ('"' :: s.toList.flatMap quoteChar ++ ['"'])

/-- A bracketed list of quoted texts. -/
def quotedList (ss : List String) : String := "[" ++ ", ".intercalate (ss.map quoted) ++ "]"

/-- A time span as messages show it: the largest unit that it fills, and a decimal fraction of it
without trailing zeros. -/
def milliseconds (ms : Nat) : String :=
  if ms = 0 then "0ns"
  else if ms < 1000 then toString ms ++ "ms"
  else
    let rest := ms % 1000
    let fraction := ((paddedDigits 3 rest).reverse.dropWhile (· == '0')).reverse
    if rest = 0 then toString (ms / 1000) ++ "s"
    else toString (ms / 1000) ++ "." ++ String.ofList fraction ++ "s"

end Reindex.Text
