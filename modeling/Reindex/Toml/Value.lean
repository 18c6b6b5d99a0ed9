import Reindex.Text.Digits
import Reindex.Toml.Tree

/-!
# TOML values and keys

Each reader takes the text from its front and gives what it read and what follows, or none if the
text is no TOML. A date or a time becomes a table of one member. Arrays and tables in braces nest
less than `nestingLimit` levels deep, and a key has less than that many parts.
-/

namespace Reindex.Toml

def isBlank (c : Char) : Bool := c == ' ' || c == '\t'

def skipBlanks (cs : List Char) : List Char := cs.dropWhile isBlank

/-- Past a line end, which is a line feed with or without a carriage return. -/
def newline? : List Char → Option (List Char)
  | '\n' :: rest => some rest
  | '\r' :: '\n' :: rest => some rest
  | _ => none

/-- Controls other than the tab, which stand in no text and no comment. -/
def isForbidden (c : Char) : Bool := (c.toNat < 0x20 && c ≠ '\t') || c.toNat = 0x7F

/-- Past a comment, if there is one, up to the line end. -/
def skipComment (cs : List Char) : Option (List Char) :=
  match cs with
  | '#' :: rest =>
    let rest := rest.dropWhile (!isForbidden ·)
    if rest.isEmpty || (newline? rest).isSome then some rest else none
  | _ => some cs

/-- Past blanks, comments and line ends. -/
def skipLines : Nat → List Char → Option (List Char)
  | 0, _ => none
  | fuel + 1, cs => do
    let rest ← skipComment (skipBlanks cs)
    match newline? rest with
    | some rest => skipLines fuel rest
    | none => some rest

/-! ## Texts -/

/-- The character with the number that so many hexadecimal digits write. -/
def codePoint (count : Nat) (cs : List Char) : Option (Char × List Char) := do
  if cs.length < count then none else return (← Text.codePoint? (cs.take count), cs.drop count)

/-- The character of an escape, after its backslash. -/
def escape : List Char → Option (Char × List Char)
  | 'b' :: rest => some ('\x08', rest)
  | 't' :: rest => some ('\t', rest)
  | 'n' :: rest => some ('\n', rest)
  | 'f' :: rest => some ('\x0C', rest)
  | 'r' :: rest => some ('\r', rest)
  | '"' :: rest => some ('"', rest)
  | '\\' :: rest => some ('\\', rest)
  | 'u' :: rest => codePoint 4 rest
  | 'U' :: rest => codePoint 8 rest
  | _ => none

/-- A text after its double quote. -/
def basicString : Nat → List Char → Option (List Char × List Char)
  | 0, _ | _, [] => none
  | fuel + 1, c :: rest =>
    if c = '"' then some ([], rest)
    else if c = '\\' then do
      let (e, rest) ← escape rest
      let (s, rest) ← basicString fuel rest
      return (e :: s, rest)
    else if isForbidden c then none
    else do
      let (s, rest) ← basicString fuel rest
      return (c :: s, rest)

/-- A text after its single quote. -/
def literalString (cs : List Char) : Option (List Char × List Char) :=
  let body := cs.takeWhile fun c => c ≠ '\'' && !isForbidden c
  match cs.drop body.length with
  | '\'' :: rest => some (body, rest)
  | _ => none

/-- The quotes at the end of a text of several lines: three close it, and up to two more belong to
it. -/
def closingQuotes (q : Char) (cs : List Char) : Option (List Char × List Char) :=
  let n := (cs.takeWhile (· = q)).length
  if 3 ≤ n ∧ n ≤ 5 then some (List.replicate (n - 3) q, cs.drop n) else none

/-- Past blanks and line ends. -/
def skipBlankLines : List Char → List Char
  | '\r' :: '\n' :: rest => skipBlankLines rest
  | c :: rest => if isBlank c || c == '\n' then skipBlankLines rest else c :: rest
  | [] => []

/-- Past the rest of a line that ends in a backslash, and the blank text behind it. -/
def skipJoint (cs : List Char) : Option (List Char) := (newline? (skipBlanks cs)).map skipBlankLines

/-- A text of several lines after its three quotes. -/
def multilineString (q : Char) : Nat → List Char → Option (List Char × List Char)
  | 0, _ | _, [] => none
  | fuel + 1, c :: rest =>
    if c = q then
      match closingQuotes q (c :: rest) with
      | some r => some r
      | none =>
        if (rest.takeWhile (· = q)).length ≥ 2 then none
        else do
          let (s, rest) ← multilineString q fuel rest
          return (q :: s, rest)
    else if c = '\\' ∧ q = '"' then
      match skipJoint rest with
      | some rest => multilineString q fuel rest
      | none => do
        let (e, rest) ← escape rest
        let (s, rest) ← multilineString q fuel rest
        return (e :: s, rest)
    else if c = '\n' then do
      let (s, rest) ← multilineString q fuel rest
      return ('\n' :: s, rest)
    else if c = '\r' then
      match rest with
      | '\n' :: rest => do
        let (s, rest) ← multilineString q fuel rest
        return ('\n' :: s, rest)
      | _ => none
    else if isForbidden c then none
    else do
      let (s, rest) ← multilineString q fuel rest
      return (c :: s, rest)

/-- A text with its quotes. -/
def string (cs : List Char) : Option (String × List Char) := do
  let fuel := cs.length + 1
  let (s, rest) ← match cs with
    | '"' :: '"' :: '"' :: rest => multilineString '"' fuel ((newline? rest).getD rest)
    | '\'' :: '\'' :: '\'' :: rest => multilineString '\'' fuel ((newline? rest).getD rest)
    | '"' :: rest => basicString fuel rest
    | '\'' :: rest => literalString rest
    | _ => none
  return (String.ofList s, rest)

/-! ## Keys -/

def isBareKey (c : Char) : Bool := c.isAlphanum || c == '_' || c == '-'

/-- One part of a key. -/
def keyPart (cs : List Char) : Option (String × List Char) :=
  match cs with
  | '"' :: rest => (basicString (cs.length + 1) rest).map fun (s, rest) => (String.ofList s, rest)
  | '\'' :: rest => (literalString rest).map fun (s, rest) => (String.ofList s, rest)
  | _ =>
    let bare := cs.takeWhile isBareKey
    if bare.isEmpty then none else some (String.ofList bare, cs.drop bare.length)

/-- The levels of arrays and tables in braces, and the parts of a key, stay below this. -/
def nestingLimit : Nat := 80

/-- At most so many parts with points between them, and the blanks behind the last. -/
def keyParts : Nat → List Char → Option (List String × List Char)
  | 0, _ => none
  | count + 1, cs => do
    let (part, rest) ← keyPart (skipBlanks cs)
    match skipBlanks rest with
    | '.' :: rest => do
      let (parts, rest) ← keyParts count rest
      return (part :: parts, rest)
    | rest => return ([part], rest)

/-- A key of parts with points between them, and the blanks behind it. -/
def key (cs : List Char) : Option (List String × List Char) := keyParts (nestingLimit - 1) cs

/-! ## Numbers, dates and times -/

/-- Digits without the underscores between them; none if an underscore stands elsewhere. -/
def plainDigits? (isDigit : Char → Bool) : List Char → Option (List Char)
  | [] => none
  | [d] => if isDigit d then some [d] else none
  | d :: '_' :: rest => if isDigit d then (plainDigits? isDigit rest).map (d :: ·) else none
  | d :: rest => if isDigit d then (plainDigits? isDigit rest).map (d :: ·) else none

/-- An integer of 64 bits. -/
def integerOf? (negative : Bool) (n : Nat) : Option Setting :=
  if negative then
    (if n > UInt64.size / 2 then none else some (.number (if n = 0 then .natural 0 else .negative n)))
  else if n ≥ UInt64.size / 2 then none
  else some (.number (.natural n))

/-- A whole number written in another base. -/
def basedInteger? (base : Nat) (cs : List Char) : Option Setting := do
  let digits ← plainDigits? (fun c => ((Text.hexValue? c).map (decide <| · < base)).getD false) cs
  integerOf? false (digits.foldl (fun n c => base * n + (Text.hexValue? c).getD 0) 0)

/-- Digits that do not begin with a zero, unless that is all. -/
def decimalDigits? (cs : List Char) : Option (List Char) := do
  let digits ← plainDigits? Char.isDigit cs
  if digits.length > 1 ∧ digits.head? = some '0' then none else some digits

/-- The sign in front of a number, and what follows. -/
def sign : List Char → Bool × List Char
  | '-' :: rest => (true, rest)
  | '+' :: rest => (false, rest)
  | cs => (false, cs)

/-- A number with a point or an exponent, after its sign. -/
def floatOf? (negative : Bool) (cs : List Char) : Option Setting := do
  let mantissa := cs.takeWhile fun c => c ≠ 'e' && c ≠ 'E'
  let exponent := cs.drop mantissa.length
  let whole := mantissa.takeWhile (· ≠ '.')
  let fraction := mantissa.drop whole.length
  let wholeDigits ← decimalDigits? whole
  let fractionDigits ← if fraction.isEmpty then some [] else plainDigits? Char.isDigit (fraction.drop 1)
  let power ← match exponent with
    | [] => some (0 : Int)
    | _ :: rest => do
      let (down, digits) := sign rest
      let n := Nat.ofDigitChars 10 (← plainDigits? Char.isDigit digits) 0
      some (if down then -(n : Int) else n)
  let x := Binary64.ofDecimal negative (Nat.ofDigitChars 10 (wholeDigits ++ fractionDigits) 0)
    (power - fractionDigits.length)
  if x = .infinite false then none else some (.number (.binary x))

/-- A number. -/
def number? (cs : List Char) : Option Setting :=
  match cs with
  | '0' :: 'x' :: rest => basedInteger? 16 rest
  | '0' :: 'o' :: rest => basedInteger? 8 rest
  | '0' :: 'b' :: rest => basedInteger? 2 rest
  | _ =>
    let (negative, rest) := sign cs
    if rest = ['i', 'n', 'f'] then some (.number (.binary (.infinite negative)))
    else if rest = ['n', 'a', 'n'] then some (.number (.binary .nan))
    else if rest.any fun c => c == '.' || c == 'e' || c == 'E' then floatOf? negative rest
    else do integerOf? negative (Nat.ofDigitChars 10 (← decimalDigits? rest) 0)

/-- The number that exactly so many digits write. -/
def digits (count : Nat) (cs : List Char) : Option (Nat × List Char) :=
  let ds := cs.take count
  if ds.length = count ∧ ds.all Char.isDigit then some (Nat.ofDigitChars 10 ds 0, cs.drop count)
    else none

/-- A number with zeros in front up to a width. -/
def padded (width n : Nat) : List Char :=
  let ds := Nat.toDigits 10 n
  List.replicate (width - ds.length) '0' ++ ds

/-- Days of a month. -/
def daysIn (year month : Nat) : Nat :=
  if month = 2 then (if year % 4 = 0 ∧ (year % 100 ≠ 0 ∨ year % 400 = 0) then 29 else 28)
  else if month ∈ [4, 6, 9, 11] then 30
  else 31

/-- A date in its one form. -/
def date (cs : List Char) : Option (List Char × List Char) := do
  let (year, rest) ← digits 4 cs
  match rest with
  | '-' :: rest =>
    let (month, rest) ← digits 2 rest
    match rest with
    | '-' :: rest =>
      let (day, rest) ← digits 2 rest
      if month = 0 ∨ month > 12 ∨ day = 0 ∨ day > daysIn year month then none
      else return (padded 4 year ++ '-' :: padded 2 month ++ '-' :: padded 2 day, rest)
    | _ => none
  | _ => none

/-- The fraction of a second without trailing zeros, to nine digits. -/
def fractionText (ds : List Char) : List Char :=
  match ((ds.take 9).reverse.dropWhile (· = '0')).reverse with
  | [] => []
  | ds => '.' :: ds

/-- A time of day in its one form. -/
def time (cs : List Char) : Option (List Char × List Char) := do
  let (hour, rest) ← digits 2 cs
  match rest with
  | ':' :: rest =>
    let (minute, rest) ← digits 2 rest
    match rest with
    | ':' :: rest =>
      let (second, rest) ← digits 2 rest
      if hour > 23 ∨ minute > 59 ∨ second > 60 then none
      else
        let clock := padded 2 hour ++ ':' :: padded 2 minute ++ ':' :: padded 2 second
        match rest with
        | '.' :: rest =>
          let ds := rest.takeWhile Char.isDigit
          if ds.isEmpty then none else return (clock ++ fractionText ds, rest.drop ds.length)
        | rest => return (clock, rest)
    | _ => none
  | _ => none

/-- The distance from Universal Time in its one form; nothing if there is none. -/
def offset (cs : List Char) : Option (List Char × List Char) :=
  match cs with
  | 'Z' :: rest | 'z' :: rest => some (['Z'], rest)
  | c :: rest =>
    if c = '+' ∨ c = '-' then do
      let (hour, rest) ← digits 2 rest
      match rest with
      | ':' :: rest =>
        let (minute, rest) ← digits 2 rest
        let sign := if hour = 0 ∧ minute = 0 then '+' else c
        if hour > 23 ∨ minute > 59 then none
        else return (sign :: padded 2 hour ++ ':' :: padded 2 minute, rest)
      | _ => none
    else some ([], cs)
  | [] => some ([], [])

/-- A date, a time, or both in their one form. -/
def dateTime (cs : List Char) : Option (List Char × List Char) :=
  match date cs with
  | none => time cs
  | some (day, rest) =>
    match rest with
    | c :: next =>
      if c = 'T' ∨ c = 't' ∨ (c = ' ' ∧ (next.head?.map Char.isDigit).getD false) then do
        let (clock, rest) ← time next
        let (away, rest) ← offset rest
        return (day ++ 'T' :: clock ++ away, rest)
      else some (day, rest)
    | [] => some (day, [])

/-- The name under which a date or a time stands in its object. -/
def dateTimeMember : String := "$__toml_private_datetime"

/-- A text begins like a date or a time. -/
def isDateTime (cs : List Char) : Bool :=
  let n := (cs.takeWhile Char.isDigit).length
  (n == 4 && cs[4]? == some '-') || (n == 2 && cs[2]? == some ':')

/-- Characters of a number or a word. -/
def isScalarChar (c : Char) : Bool :=
  c.isAlphanum || c == '+' || c == '-' || c == '.' || c == '_' || c == ':'

/-- A value without structure. -/
def scalar (cs : List Char) : Option (Setting × List Char) :=
  match cs with
  | '"' :: _ | '\'' :: _ => (string cs).map fun (s, rest) => (.text s, rest)
  | _ =>
    if isDateTime cs then
      (dateTime cs).map fun (t, rest) => (.table [(dateTimeMember, .text (String.ofList t))], rest)
    else
      let word := cs.takeWhile isScalarChar
      let rest := cs.drop word.length
      if word = ['t', 'r', 'u', 'e'] then some (.bool true, rest)
      else if word = ['f', 'a', 'l', 's', 'e'] then some (.bool false, rest)
      else (number? word).map (·, rest)

mutual
/-- A value inside so many levels of arrays and tables. -/
def value : Nat → Nat → List Char → Option (Setting × List Char)
  | 0, _, _ => none
  | fuel + 1, level, cs =>
    match cs with
    | '[' :: rest =>
      if level + 1 ≥ nestingLimit then none
      else (items fuel (level + 1) rest).map fun (vs, rest) => (.list vs, rest)
    | '\x7b' :: rest =>
      if level + 1 ≥ nestingLimit then none
      else
        match skipBlanks rest with
        | '\x7d' :: rest => some (.table [], rest)
        | rest => (pairs fuel (level + 1) [] rest).map fun (ms, rest) =>
            (.table (membersToSettings ms), rest)
    | _ => scalar cs
/-- The items of an array up to its bracket. -/
def items : Nat → Nat → List Char → Option (List Setting × List Char)
  | 0, _, _ => none
  | fuel + 1, level, cs => do
    match ← skipLines (cs.length + 1) cs with
    | ']' :: rest => return ([], rest)
    | rest =>
      let (v, rest) ← value fuel level rest
      match ← skipLines (rest.length + 1) rest with
      | ',' :: rest =>
        let (vs, rest) ← items fuel level rest
        return (v :: vs, rest)
      | ']' :: rest => return ([v], rest)
      | _ => none
/-- The members of a table in braces up to the closing one, behind those before. -/
def pairs : Nat → Nat → Members → List Char → Option (Members × List Char)
  | 0, _, _, _ => none
  | fuel + 1, level, members, cs => do
    let (path, rest) ← key cs
    match rest with
    | '=' :: rest =>
      let (v, rest) ← value fuel level (skipBlanks rest)
      let members ← put path v members
      match skipBlanks rest with
      | ',' :: rest => pairs fuel level members rest
      | '\x7d' :: rest => return (members, rest)
      | _ => none
    | _ => none
end

end Reindex.Toml
