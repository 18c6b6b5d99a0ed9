import Reindex.Url.Domain

/-!
# Hosts

The host of a URL with one of the special schemes is a domain in lower case, an IPv4 address in one
of its many spellings, or an IPv6 address in brackets. `Host.read?` gives the one form in which it
is written in the end.
-/

namespace Reindex.Url.Host

open Text

/-! ## Version 4 addresses -/

/-- The number that digits of a base write. -/
def digitsIn? (base : Nat) (cs : List Char) : Option Nat :=
  cs.foldlM (fun n c => do
    let d ← hexValue? c
    if d < base then some (n * base + d) else none) 0

/-- A part of an address: decimal, octal behind a zero, or hexadecimal behind `0x`. -/
def ipv4Number? : List Char → Option Nat
  | [] => none
  | '0' :: 'x' :: rest | '0' :: 'X' :: rest => digitsIn? 16 rest
  | '0' :: d :: rest => digitsIn? 8 (d :: rest)
  | cs => digitsIn? 10 cs

/-- The parts of a dotted name, without an empty last one. -/
def dottedParts (cs : List Char) : List (List Char) :=
  let parts := splitOn '.' cs
  if parts.length > 1 ∧ parts.getLast? = some [] then parts.dropLast else parts

/-- A name whose last part is a number is an address or nothing. -/
def endsInNumber (cs : List Char) : Bool :=
  match (dottedParts cs).getLast? with
  | none | some [] => false
  | some last =>
    last.all Char.isDigit || (last.take 2 ∈ [['0', 'x'], ['0', 'X']] && (ipv4Number? last).isSome)

/-- The number of an address from those of its parts; the last part fills what is left. -/
def ipv4Value? (numbers : List Nat) : Option Nat :=
  match numbers.reverse with
  | [] => none
  | last :: before =>
    let room := 8 * (4 - before.length)
    if before.any (· > 255) ∨ last ≥ 1 <<< room then none
    else some ((before.foldr (fun n high => high <<< 8 + n) 0) <<< room + last)

/-- An address in four decimal parts. -/
def renderIpv4 (n : Nat) : List Char :=
  joinWith ['.'] ([n >>> 24, (n >>> 16) % 256, (n >>> 8) % 256, n % 256].map (Nat.toDigits 10))

def readIpv4? (cs : List Char) : Option (List Char) := do
  let parts := dottedParts cs
  if parts.length > 4 then none
  else
    let numbers ← parts.mapM ipv4Number?
    renderIpv4 <$> ipv4Value? numbers

/-! ## Version 6 addresses -/

/-- A group of up to four hexadecimal digits. -/
def group? (cs : List Char) : Option Nat :=
  if cs.isEmpty ∨ cs.length > 4 then none else digitsIn? 16 cs

/-- One decimal part of a version 4 address at the end of a version 6 one. -/
def decimalByte? (cs : List Char) : Option Nat := do
  if cs.isEmpty ∨ (cs.length > 1 ∧ cs.head? = some '0') then none
  else
    let n ← digitsIn? 10 cs
    if n > 255 then none else some n

/-- The groups of a part of an address without `::`; the last may be a version 4 address. -/
def groups? : List (List Char) → Option (List Nat)
  | [] => some []
  | [last] =>
    if '.' ∈ last then do
      match ← (splitOn '.' last).mapM decimalByte? with
      | [a, b, c, d] => some [256 * a + b, 256 * c + d]
      | _ => none
    else do return [← group? last]
  | piece :: pieces => do
    let g ← group? piece
    let gs ← groups? pieces
    return g :: gs

/-- Groups separated by colons. -/
def colonGroups? (cs : List Char) : Option (List Nat) :=
  if cs.isEmpty then some [] else groups? (splitOn ':' cs)

/-- The text before and after the first `::`, if there is one. -/
def splitGap : List Char → List Char × Option (List Char)
  | [] => ([], none)
  | ':' :: ':' :: rest => ([], some rest)
  | c :: rest => let r := splitGap rest; (c :: r.1, r.2)

/-- The eight groups of an address. -/
def ipv6Groups? (cs : List Char) : Option (List Nat) :=
  match splitGap cs with
  | (all, none) => do
    let gs ← colonGroups? all
    if gs.length = 8 then some gs else none
  | (before, some after) => do
    if '.' ∈ before then none
    else
      let gs ← colonGroups? before
      let hs ← colonGroups? after
      if gs.length + hs.length < 8 then
        some (gs ++ List.replicate (8 - gs.length - hs.length) 0 ++ hs) else none

/-- How many zeros a list begins with. -/
def zeroRun (gs : List Nat) : Nat := (gs.takeWhile (· = 0)).length

/-- Where the first longest run of two or more zeros begins, and its length. -/
def longestZeroRun (gs : List Nat) : Option (Nat × Nat) :=
  (List.range gs.length).foldl (fun best i =>
    let n := zeroRun (gs.drop i)
    if n > (best.map (·.2)).getD 1 then some (i, n) else best) none

/-- Groups in hexadecimal digits between colons. -/
def renderGroups (gs : List Nat) : List Char := joinWith [':'] (gs.map (Nat.toDigits 16))

/-- An address with its longest run of zero groups left out. -/
def renderIpv6 (gs : List Nat) : List Char :=
  match longestZeroRun gs with
  | none => renderGroups gs
  | some (i, n) => renderGroups (gs.take i) ++ [':', ':'] ++ renderGroups (gs.drop (i + n))

/-! ## Domains -/

/-- An address of version 6 behind an opening bracket. -/
def readBracketed? (cs : List Char) : Option (List Char) :=
  if cs.getLast? = some ']' then (ipv6Groups? cs.dropLast).map fun gs =>
    '[' :: renderIpv6 gs ++ [']'] else none

/-- The form in which the host of a special scheme is written; none if it is no host. -/
def read? : List Char → Option (List Char)
  | '[' :: rest => readBracketed? rest
  | cs => do
    let text ← String.fromUTF8? ⟨(percentDecode cs).toArray⟩
    let domain ← Domain.ascii? text.toList
    if endsInNumber domain then readIpv4? domain else some domain

/-- The form in which the host of any other scheme is written. -/
def readOpaque? : List Char → Option (List Char)
  | '[' :: rest => readBracketed? rest
  | cs =>
    if cs.any (fun c => Domain.isForbidden c && !isControl c && c ≠ '%' || c.toNat = 0) then none
    else some (percentEncode isControl cs)

end Reindex.Url.Host
