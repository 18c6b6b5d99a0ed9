import Reindex.Json.Writer
import Reindex.Text.Digits

/-!
# Reading JSON texts

`Json.parse` reads one value that fills the whole text, or says what is wrong and where: the line,
and how many bytes of the line come before the place. Values nest at most 127 levels deep, and a
number beyond the range of binary64 is refused.

An object whose first member is named `quotedKey` stands for another value, whose text that member
is.

Each function reads from the front of a list of characters and returns what is left, so that the
place of an error is what had been read by then.
-/

namespace Reindex.Json.Reader

/-- What can be wrong with a JSON text. -/
inductive Fault where
  | eofList | eofObject | eofString | eofValue
  | expectedColon | expectedListCommaOrEnd | expectedObjectCommaOrEnd
  | expectedIdent | expectedValue
  | invalidEscape | invalidNumber | numberOutOfRange | controlCharacter
  | keyMustBeString | loneSurrogate | unexpectedEndOfEscape
  | trailingComma | trailingCharacters | recursionLimit
  /-- Something else stands where the text of a quoted value is expected. -/
  | notQuoted (found : Json)
  /-- The text of a quoted value is wrong, at a line and a column of its own. -/
  | inQuoted (fault : Fault) (line column : Nat)
deriving DecidableEq, Repr

/-- What a value is called where it is out of place. -/
def kindName : Json → String
  | .null => "null"
  | .bool b => "boolean \x60" ++ (if b then "true" else "false") ++ "\x60"
  | .number (.binary x) => "floating point \x60" ++ x.jsonText ++ "\x60"
  | .number n => "integer \x60" ++ String.ofList (renderNumber n) ++ "\x60"
  | .string _ => "string"
  | .array _ => "sequence"
  | .object _ => "map"

def Fault.message : Fault → String
  | .eofList => "EOF while parsing a list"
  | .eofObject => "EOF while parsing an object"
  | .eofString => "EOF while parsing a string"
  | .eofValue => "EOF while parsing a value"
  | .expectedColon => "expected \x60:\x60"
  | .expectedListCommaOrEnd => "expected \x60,\x60 or \x60]\x60"
  | .expectedObjectCommaOrEnd => "expected \x60,\x60 or \x60\x7d\x60"
  | .expectedIdent => "expected ident"
  | .expectedValue => "expected value"
  | .invalidEscape => "invalid escape"
  | .invalidNumber => "invalid number"
  | .numberOutOfRange => "number out of range"
  | .controlCharacter => "control character (\\u0000-\\u001F) found while parsing a string"
  | .keyMustBeString => "key must be a string"
  | .loneSurrogate => "lone leading surrogate in hex escape"
  | .unexpectedEndOfEscape => "unexpected end of hex escape"
  | .trailingComma => "trailing comma"
  | .trailingCharacters => "trailing characters"
  | .recursionLimit => "recursion limit exceeded"
  | .notQuoted found => "invalid type: " ++ kindName found ++ ", expected raw value"
  | .inQuoted fault _ _ => fault.message

/-- Reading stopped: what is wrong, what was left, and how many bytes of that had been looked at. -/
structure Stop where
  fault : Fault
  rest : List Char
  ahead : Nat := 0
deriving DecidableEq, Repr

/-- A fault and its place. -/
structure ParseError where
  fault : Fault
  line : Nat
  column : Nat
deriving DecidableEq, Repr

def ParseError.message (e : ParseError) : String :=
  e.fault.message ++ " at line " ++ toString e.line ++ " column " ++ toString e.column

/-- Line and column after some characters, from those before them. -/
def advance (place : Nat × Nat) (cs : List Char) : Nat × Nat :=
  cs.foldl
    (fun (line, column) c => if c = '\n' then (line + 1, 0) else (line, column + c.utf8Size)) place

/-- Line and column after the first `bytes` bytes of some characters. -/
def advanceBytes (place : Nat × Nat) : Nat → List Char → Nat × Nat
  | _, [] => place
  | 0, _ => place
  | bytes + 1, c :: cs =>
    if c = '\n' then advanceBytes (place.1 + 1, 0) bytes cs
    else if bytes + 1 ≤ c.utf8Size then (place.1, place.2 + (bytes + 1))
    else advanceBytes (place.1, place.2 + c.utf8Size) (bytes + 1 - c.utf8Size) cs

/-- The place where reading `cs` stopped. -/
def Stop.toError (cs : List Char) (s : Stop) : ParseError :=
  match s.fault with
  | .inQuoted fault line column => ⟨fault, line, column⟩
  | fault =>
    let read := advance (1, 0) (cs.take (cs.length - s.rest.length))
    let place := advanceBytes read s.ahead s.rest
    ⟨fault, place.1, place.2⟩

/-- A fault that shows at the next character, which counts as looked at. -/
def atNext {α : Type} (fault : Fault) (rest : List Char) : Except Stop α := .error ⟨fault, rest, 1⟩

/-- A fault that shows at what has been read. -/
def atRead {α : Type} (fault : Fault) (rest : List Char) : Except Stop α := .error ⟨fault, rest, 0⟩

def isSpace (c : Char) : Bool := c == ' ' || c == '\n' || c == '\t' || c == '\r'

/-- The text without the spaces at its front. -/
def skipSpaces (cs : List Char) : List Char := cs.dropWhile isSpace

def isDigit (c : Char) : Bool := '0' ≤ c && c ≤ '9'

def digitValue (c : Char) : Nat := c.toNat - '0'.toNat

/-- The rest of a word such as `true` after its first character. -/
def word (value : Json) : List Char → List Char → Except Stop (Json × List Char)
  | [], cs => .ok (value, cs)
  | _ :: _, [] => atRead .eofValue []
  | w :: ws, c :: cs => if c = w then word value ws cs else atNext .expectedIdent (c :: cs)

/-! ## Strings -/

/-- The number that four hexadecimal digits write. -/
def hex4? (a b c d : Char) : Option Nat := do
  let a ← Text.hexValue? a
  let b ← Text.hexValue? b
  let c ← Text.hexValue? c
  let d ← Text.hexValue? d
  return ((a * 16 + b) * 16 + c) * 16 + d

/-- Why the four bytes after `\u` are no escape. -/
def badHex {α : Type} (rest : List Char) : Except Stop α :=
  if rest.foldl (fun n c => n + c.utf8Size) 0 < 4 then atRead .eofString []
  else .error ⟨.invalidEscape, rest, 4⟩

/-- The character that a one-letter escape stands for. -/
def shortEscape? : Char → Option Char
  | '"' => some '"'
  | '\\' => some '\\'
  | '/' => some '/'
  | 'b' => some '\x08'
  | 'f' => some '\x0C'
  | 'n' => some '\n'
  | 'r' => some '\r'
  | 't' => some '\t'
  | _ => none

def isHighSurrogate (n : Nat) : Bool := 0xD800 ≤ n && n ≤ 0xDBFF
def isLowSurrogate (n : Nat) : Bool := 0xDC00 ≤ n && n ≤ 0xDFFF

/-- A string after its opening quote; `acc` holds the characters so far, latest first. -/
def stringBody (acc : List Char) : List Char → Except Stop (List Char × List Char)
  | [] => atRead .eofString []
  | '"' :: rest => .ok (acc.reverse, rest)
  | '\\' :: [] => atRead .eofString []
  | '\\' :: 'u' :: a :: b :: c :: d :: more =>
    match hex4? a b c d with
    | none => badHex (a :: b :: c :: d :: more)
    | some n =>
      if isLowSurrogate n then atRead .loneSurrogate more
      else if !isHighSurrogate n then stringBody (Char.ofNat n :: acc) more
      else
        match more with
        | [] => atRead .eofString []
        | '\\' :: [] => atRead .eofString []
        | '\\' :: 'u' :: e :: f :: g :: h :: last =>
          match hex4? e f g h with
          | none => badHex (e :: f :: g :: h :: last)
          | some m =>
            if isLowSurrogate m then
              stringBody (Char.ofNat ((n - 0xD800) * 0x400 + (m - 0xDC00) + 0x10000) :: acc) last
            else atRead .loneSurrogate last
        | '\\' :: 'u' :: last => badHex last
        | '\\' :: other => atNext .unexpectedEndOfEscape other
        | other => atNext .unexpectedEndOfEscape other
  | '\\' :: 'u' :: few => badHex few
  | '\\' :: c :: rest =>
    match shortEscape? c with
    | some e => stringBody (e :: acc) rest
    | none => atNext .invalidEscape (c :: rest)
  | c :: rest => if c.toNat < 0x20 then atRead .controlCharacter rest else stringBody
      (c :: acc) rest

/-! ## Numbers -/

/-- As many of the digits as fit 64 bits behind `n`, and how many are left over. -/
def significand (n : Nat) : List Char → Nat × Nat × Nat
  | [] => (n, 0, 0)
  | ds@(d :: rest) =>
    if n * 10 + digitValue d < UInt64.size then
      let r := significand (n * 10 + digitValue d) rest
      (r.1, r.2.1 + 1, r.2.2)
    else (n, 0, ds.length)

/-- `x` times or over a power of ten, each step rounded; a power beyond `10 ^ 308` goes in steps. -/
def scalePower : Nat → Binary64 → Int → Option Binary64
  | 0, x, _ => some x
  | fuel + 1, x, e =>
    if e.natAbs ≤ 308 then
      let p := Binary64.ofDecimal false 1 e.natAbs
      if e ≥ 0 then
        let y := x.mul p
        if y.isInfinite then none else some y
      else some (x.div p)
    else if x.isZero then some x
    else if e ≥ 0 then none
    else scalePower fuel (x.div (Binary64.ofDecimal false 1 308)) (e + 308)

/-- The number `± digits · 10 ^ power`. -/
def fromParts (negative : Bool) (digits : Nat) (power : Int) (rest : List Char) :
    Except Stop (Number × List Char) :=
  match scalePower 8 (.ofNat digits) power with
  | none => atRead .numberOutOfRange rest
  | some x => .ok (.binary (if negative then x.neg else x), rest)

/-- The digits of an exponent, as far as they fit 31 bits: the value, and the rest from the first
digit that does not fit. -/
def exponentDigits (n : Nat) : List Char → Nat × Option (List Char)
  | [] => (n, none)
  | d :: rest =>
    let m := n * 10 + digitValue d
    if m < UInt32.size / 2 then exponentDigits m rest else (n, some rest)

/-- A number after the `e` of its exponent. -/
def exponentPart (negative : Bool) (digits : Nat) (power : Int) (cs : List Char) :
    Except Stop (Number × List Char) :=
  let down := cs.head? = some '-'
  let cs := if cs.head? = some '+' ∨ cs.head? = some '-' then cs.drop 1 else cs
  match cs with
  | [] => atRead .eofValue []
  | c :: _ =>
    if isDigit c then
      let ds := cs.takeWhile isDigit
      let rest := cs.dropWhile isDigit
      match exponentDigits 0 ds with
      | (e, none) => fromParts negative digits (if down then power - e else power + e) rest
      | (_, some left) =>
        if digits ≠ 0 ∧ !down then atRead .numberOutOfRange (left ++ rest)
        else .ok (.binary (.zero negative), rest)
    else atNext .invalidNumber cs

/-- What may follow the digits of a number whose value is `digits · 10 ^ power`. -/
def exponentOrEnd (negative : Bool) (digits : Nat) (power : Int) :
    List Char → Except Stop (Number × List Char)
  | 'e' :: rest | 'E' :: rest => exponentPart negative digits power rest
  | rest => fromParts negative digits power rest

/-- A number after its decimal point. Digits that do not fit 64 bits are ignored. -/
def fractionPart (negative : Bool) (digits : Nat) (power : Int) (cs : List Char) :
    Except Stop (Number × List Char) :=
  let ds := cs.takeWhile isDigit
  let rest := cs.dropWhile isDigit
  if ds.isEmpty then
    if rest.isEmpty then atNext .eofValue rest else atNext .invalidNumber rest
  else
    let r := significand digits ds
    exponentOrEnd negative r.1 (power - r.2.1) rest

/-- An integer, which is a binary number where it does not fit 64 bits, and for `-0`. -/
def integer (negative : Bool) (n : Nat) : Number :=
  if !negative then .natural n
  else if n = 0 ∨ n > UInt64.size / 2 then .binary (Binary64.ofNat n).neg
  else .negative n

/-- A number after its sign. -/
def number (negative : Bool) (cs : List Char) : Except Stop (Number × List Char) :=
  match cs with
  | [] => atRead .eofValue []
  | c :: next =>
    if !isDigit c then atNext .invalidNumber cs
    else if c = '0' ∧ (next.head?.map isDigit).getD false then atNext .invalidNumber next
    else
      let ds := cs.takeWhile isDigit
      let r := significand 0 ds
      match cs.dropWhile isDigit with
      | '.' :: rest => fractionPart negative r.1 r.2.2 rest
      | 'e' :: rest | 'E' :: rest => exponentPart negative r.1 r.2.2 rest
      | rest =>
        if r.2.2 = 0 then .ok (integer negative r.1, rest) else fromParts negative r.1 r.2.2 rest

/-! ## Quoted values -/

/-- The name of a member that holds the text of a value. -/
def quotedKey : String := "$serde_json::private::RawValue"

/-- What follows the name `quotedKey` at the front of the members of an object. -/
def afterQuotedKey? (cs : List Char) : Option (List Char) :=
  match skipSpaces cs with
  | '"' :: rest =>
    match stringBody [] rest with
    | .ok (name, rest) => if name = quotedKey.toList then some rest else none
    | .error _ => none
  | _ => none

/-- What stands where the text of a quoted value is expected, which is no text. -/
def misplaced {α : Type} (cs : List Char) : Except Stop α := do
  let refuse (j : Json) (rest : List Char) : Except Stop α := atRead (.notQuoted j) rest
  match cs with
  | 'n' :: rest =>
    let (j, rest) ← word .null ['u', 'l', 'l'] rest
    refuse j rest
  | 't' :: rest =>
    let (j, rest) ← word (.bool true) ['r', 'u', 'e'] rest
    refuse j rest
  | 'f' :: rest =>
    let (j, rest) ← word (.bool false) ['a', 'l', 's', 'e'] rest
    refuse j rest
  | '-' :: rest =>
    let (n, rest) ← number true rest
    refuse (.number n) rest
  | '[' :: _ => refuse (.array []) cs
  | '\x7b' :: _ => refuse (.object []) cs
  | c :: _ =>
    if isDigit c then do
      let (n, rest) ← number false cs
      refuse (.number n) rest
    else atNext .expectedValue cs
  | [] => atNext .eofValue []

/-- The text of a quoted value, from after the name `quotedKey`. -/
def quotedText (cs : List Char) : Except Stop (List Char × List Char) :=
  match skipSpaces cs with
  | [] => atNext .eofObject []
  | ':' :: rest =>
    match skipSpaces rest with
    | '"' :: rest => stringBody [] rest
    | rest => misplaced rest
  | rest => atNext .expectedColon rest

/-- Past the end of an object that holds a quoted value and nothing else. -/
def endQuoted (cs : List Char) : Except Stop (List Char) :=
  match skipSpaces cs with
  | [] => atNext .eofObject []
  | '\x7d' :: rest => .ok rest
  | ',' :: rest => atNext .trailingComma (',' :: rest)
  | rest => atNext .trailingCharacters rest

/-- How many levels of nesting a text may open, and one. -/
def depthLimit : Nat := 128

/-- What is read from the whole of a text, after which only spaces may come. -/
def whole (result : Except Stop (Json × List Char)) : Except Stop Json := do
  let (j, rest) ← result
  match skipSpaces rest with
  | [] => return j
  | rest => atNext .trailingCharacters rest

/-- The place of an error in a text that another one quotes. -/
def Stop.quoted (text : List Char) (s : Stop) : Stop :=
  let e := s.toError text
  { s with fault := .inQuoted e.fault e.line e.column }

/-! ## Values -/

mutual
/-- One value. `depth` is how many levels may still open, and one; `fuel` bounds the steps. -/
def value : Nat → Nat → List Char → Except Stop (Json × List Char)
  | 0, _, cs => atNext .eofValue cs
  | fuel + 1, depth, cs =>
    match skipSpaces cs with
    | [] => atNext .eofValue []
    | 'n' :: rest => word .null ['u', 'l', 'l'] rest
    | 't' :: rest => word (.bool true) ['r', 'u', 'e'] rest
    | 'f' :: rest => word (.bool false) ['a', 'l', 's', 'e'] rest
    | '-' :: rest => do
      let (n, rest) ← number true rest
      return (.number n, rest)
    | '"' :: rest => do
      let (s, rest) ← stringBody [] rest
      return (.string (String.ofList s), rest)
    | '[' :: rest =>
      if depth ≤ 1 then atNext .recursionLimit ('[' :: rest)
      else do
        let (items, rest) ← items fuel (depth - 1) true rest
        return (.array items, rest)
    | '\x7b' :: rest =>
      if depth ≤ 1 then atNext .recursionLimit ('\x7b' :: rest)
      else
        match afterQuotedKey? rest with
        | some rest => do
          let (text, rest) ← quotedText rest
          let j ← (whole (value fuel depthLimit text)).mapError (Stop.quoted text)
          return (j, ← endQuoted rest)
        | none => do
          let (members, rest) ← members fuel (depth - 1) true rest
          return (ofMembers members, rest)
    | c :: rest =>
      if isDigit c then do
        let (n, rest) ← number false (c :: rest)
        return (.number n, rest)
      else atNext .expectedValue (c :: rest)
/-- The items of an array up to its closing bracket; `first` before any of them. -/
def items : Nat → Nat → Bool → List Char → Except Stop (List Json × List Char)
  | 0, _, _, cs => atNext .eofList cs
  | fuel + 1, depth, first, cs =>
    match skipSpaces cs with
    | [] => atNext .eofList []
    | ']' :: rest => .ok ([], rest)
    | c :: rest =>
      if first then do
        let (item, rest) ← value fuel depth (c :: rest)
        let (more, rest) ← items fuel depth false rest
        return (item :: more, rest)
      else if c = ',' then
        match skipSpaces rest with
        | [] => atNext .eofValue []
        | ']' :: rest => atNext .trailingComma (']' :: rest)
        | rest => do
          let (item, rest) ← value fuel depth rest
          let (more, rest) ← items fuel depth false rest
          return (item :: more, rest)
      else atNext .expectedListCommaOrEnd (c :: rest)
/-- The members of an object up to its closing brace; `first` before any of them. -/
def members : Nat → Nat → Bool → List Char → Except Stop (List (String × Json) × List Char)
  | 0, _, _, cs => atNext .eofObject cs
  | fuel + 1, depth, first, cs =>
    match skipSpaces cs with
    | [] => atNext .eofObject []
    | '\x7d' :: rest => .ok ([], rest)
    | c :: rest =>
      if first then
        if c = '"' then member fuel depth rest else atNext .keyMustBeString (c :: rest)
      else if c = ',' then
        match skipSpaces rest with
        | [] => atNext .eofValue []
        | '"' :: rest => member fuel depth rest
        | '\x7d' :: rest => atNext .trailingComma ('\x7d' :: rest)
        | rest => atNext .keyMustBeString rest
      else atNext .expectedObjectCommaOrEnd (c :: rest)
/-- A member after the opening quote of its name, and the members after it. -/
def member : Nat → Nat → List Char → Except Stop (List (String × Json) × List Char)
  | 0, _, cs => atNext .eofObject cs
  | fuel + 1, depth, cs => do
    let (name, rest) ← stringBody [] cs
    match skipSpaces rest with
    | [] => atNext .eofObject []
    | ':' :: rest =>
      let (v, rest) ← value fuel depth rest
      let (more, rest) ← members fuel depth false rest
      return ((String.ofList name, v) :: more, rest)
    | rest => atNext .expectedColon rest
end

/-- A value that fills the whole text but for spaces. -/
def document (cs : List Char) : Except Stop Json := whole (value (3 * cs.length + 3) depthLimit cs)

end Reindex.Json.Reader

/-- The value that a text writes, or what is wrong with it. -/
def Reindex.Json.parse (s : String) : Except Reindex.Json.Reader.ParseError Reindex.Json :=
  (Reindex.Json.Reader.document s.toList).mapError (Reindex.Json.Reader.Stop.toError s.toList)
