import Reindex.Config.Setting
import Reindex.Text.Blank

/-!
# Settings from the environment

Variables whose names begin with `nameStart`, in either case, are settings. Two underscores in a
name lead into a section. The text of a variable is a value if the whole of it can be read as one,
and itself otherwise: `true`, `7`, `1.5`, `"text"`, `'x'`, `[1, 2]` and `{key = value}` are values.

Between the parts of a value stand blanks of ASCII. What is no word, text or collection goes on to
the next separator and is taken without the blanks of any kind around it.
-/

namespace Reindex.Environment

/-! ## Values -/

/-- Blanks of ASCII, of which the vertical tab is none. -/
def isBlank (c : Char) : Bool := c == ' ' || c == '\t' || c == '\n' || c == '\r' || c == '\x0C'

def skipBlanks (cs : List Char) : List Char := cs.dropWhile isBlank

/-- Controls other than the tab, which stand in no text. -/
def isForbidden (c : Char) : Bool := (c.toNat < 0x20 && c ≠ '\t') || c.toNat = 0x7F

/-- Past a word. -/
def word : List Char → List Char → Option (List Char)
  | [], cs => some cs
  | w :: ws, c :: cs => if w = c then word ws cs else none
  | _ :: _, [] => none

/-- A text after its double quote. -/
def quotedText : Nat → List Char → Option (List Char × List Char)
  | 0, _ | _, [] => none
  | fuel + 1, c :: rest =>
    let keep (e : Char) (rest : List Char) : Option (List Char × List Char) :=
      (quotedText fuel rest).map fun (s, rest) => (e :: s, rest)
    if c = '"' then some ([], rest)
    else if c ≠ '\\' then if isForbidden c then none else keep c rest
    else
      match rest with
      | 'b' :: rest => keep '\x08' rest
      | 'f' :: rest => keep '\x0C' rest
      | 'n' :: rest => keep '\n' rest
      | 'r' :: rest => keep '\r' rest
      | 't' :: rest => keep '\t' rest
      | '"' :: rest => keep '"' rest
      | '\\' :: rest => keep '\\' rest
      | 'u' :: rest => if rest.length < 4 then none else do keep (← Text.codePoint? (rest.take 4)) (rest.drop 4)
      | 'U' :: rest => if rest.length < 8 then none else do keep (← Text.codePoint? (rest.take 8)) (rest.drop 8)
      | _ => none

/-- Characters that end a plain value. -/
def isSeparator (c : Char) : Bool := c ∈ [',', '\x7b', '\x7d', '[', ']']

/-- Digits with an optional sign. -/
def wholeNumber? (cs : List Char) : Option (Bool × Nat) :=
  let (negative, digits) := match cs with
    | '-' :: rest => (true, rest)
    | '+' :: rest => (false, rest)
    | cs => (false, cs)
  if digits.isEmpty ∨ !digits.all Char.isDigit then none else some (negative, Nat.ofDigitChars 10 digits 0)

/-- An integer of 64 bits. -/
def integer? (cs : List Char) : Option Setting :=
  match wholeNumber? cs with
  | some (false, n) => if n < UInt64.size then some (.number (.natural n)) else none
  | some (true, n) =>
    if n > UInt64.size / 2 then none else some (.number (if n = 0 then .natural 0 else .negative n))
  | none => none

/-- A decimal number with a point. -/
def decimal? (cs : List Char) : Option Setting := do
  let (negative, body) := match cs with
    | '-' :: rest => (true, rest)
    | '+' :: rest => (false, rest)
    | cs => (false, cs)
  let mantissa := body.takeWhile fun c => c ≠ 'e' && c ≠ 'E'
  let whole := mantissa.takeWhile (· ≠ '.')
  let fraction := (mantissa.drop whole.length).drop 1
  let power ← match body.drop mantissa.length with
    | [] => some (0 : Int)
    | _ :: rest => (wholeNumber? rest).map fun (down, n) => if down then -(n : Int) else n
  let digits := whole ++ fraction
  if digits.isEmpty ∨ !digits.all Char.isDigit then none
  else some (.number
    (.binary (.ofDecimal negative (Nat.ofDigitChars 10 digits 0) (power - fraction.length))))

/-- A value that is neither a word, a text nor a collection. -/
def plain (cs : List Char) : Setting :=
  let text := Setting.text (String.ofList cs)
  if '.' ∈ cs then (decimal? cs).getD text else (integer? cs).getD text

/-- The name of a member, and the blanks around it. -/
def memberName (cs : List Char) : Option (String × List Char) := do
  let cs := skipBlanks cs
  let (name, rest) ← match cs with
    | '"' :: rest => quotedText (rest.length + 1) rest
    | _ =>
      let name := cs.takeWhile fun c => c.isAlphanum || c == '_' || c == '-'
      if name.isEmpty then none else some (name, cs.drop name.length)
  return (String.ofList name, skipBlanks rest)

mutual
/-- A value and the blanks around it. -/
def value : Nat → List Char → Option (Setting × List Char)
  | 0, _ => none
  | fuel + 1, cs => do
    let cs := skipBlanks cs
    let (v, rest) ←
      match word ['t', 'r', 'u', 'e'] cs, word ['f', 'a', 'l', 's', 'e'] cs with
      | some rest, _ => some (Setting.bool true, rest)
      | none, some rest => some (Setting.bool false, rest)
      | none, none =>
        match cs with
        | '\x7b' :: rest => (members fuel rest).map fun (ms, rest) => (Setting.ofMembers ms, rest)
        | '[' :: rest => (items fuel rest).map fun (vs, rest) => (Setting.list vs, rest)
        | '"' :: rest => (quotedText (rest.length + 1) rest).map fun (s, rest) =>
          (Setting.text (String.ofList s), rest)
        | '\'' :: c :: '\'' :: rest => some (Setting.letter c, rest)
        | '\'' :: _ => none
        | _ =>
          let text := cs.takeWhile (!isSeparator ·)
          some (plain (Text.trim text), cs.drop text.length)
    return (v, skipBlanks rest)
/-- The items of a list up to its bracket. -/
def items : Nat → List Char → Option (List Setting × List Char)
  | 0, _ => none
  | fuel + 1, cs =>
    match cs with
    | ']' :: rest => some ([], rest)
    | _ => do
      let (v, rest) ← value fuel cs
      match rest with
      | ',' :: rest =>
        let (vs, rest) ← items fuel rest
        return (v :: vs, rest)
      | ']' :: rest => return ([v], rest)
      | _ => none
/-- The members of a dictionary up to its brace. -/
def members : Nat → List Char → Option (List (String × Setting) × List Char)
  | 0, _ => none
  | fuel + 1, cs =>
    match cs with
    | '\x7d' :: rest => some ([], rest)
    | _ => do
      let (name, rest) ← memberName cs
      match rest with
      | '=' :: rest =>
        let (v, rest) ← value fuel rest
        match rest with
        | ',' :: rest =>
          let (ms, rest) ← members fuel rest
          return ((name, v) :: ms, rest)
        | '\x7d' :: rest => return ([(name, v)], rest)
        | _ => none
      | _ => none
end

/-- The value that the text of a variable stands for. -/
def readValue (s : String) : Setting :=
  let cs := s.toList
  match value (2 * cs.length + 2) cs with
  | some (v, []) => v
  | _ => .text s

/-! ## Names -/

/-- The beginning of the names of all settings. -/
def nameStart : List Char := ['i', 'x', 'l', '_']

/-- The pieces of a name between two underscores or points. -/
def sections : List Char → List (List Char)
  | [] => [[]]
  | '_' :: '_' :: rest => [] :: sections rest
  | '.' :: rest => [] :: sections rest
  | c :: rest =>
    match sections rest with
    | piece :: pieces => (c :: piece) :: pieces
    | [] => [[c]]

/-- Where the value of a variable belongs; none if it is no setting. -/
def pathOf? (name : String) : Option (List String) := do
  let rest ← word nameStart ((Text.trim name.toList).map Char.toLower)
  let pieces := sections (Text.trim rest)
  if pieces.any List.isEmpty then none else some (pieces.map String.ofList)

/-- A value at a path. -/
def nest : List String → Setting → Setting
  | [], v => v
  | k :: ks, v => .table [(k, nest ks v)]

/-- The settings in some variables; of two for one place the later counts. -/
def settings (env : List (String × String)) : Setting :=
  env.foldl (fun tree (name, text) =>
    match pathOf? name with
    | some path => tree.merge (nest path (readValue text))
    | none => tree) (.table [])

end Reindex.Environment
