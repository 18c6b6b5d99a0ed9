import Reindex.Binary64.Basic
import Reindex.Text.Digits

/-!
# Decimal texts of binary64 numbers

A number is written with the fewest decimal digits that read back as the same number, and of those
with the digits nearest to it. `Binary64.shortest` finds digits and power of ten by exact
arithmetic; `Binary64.positional` and `Binary64.scientific` lay them out.
-/

namespace Reindex.Binary64

/-- The reals that round to `m · 2 ^ e`, as numerators over a common denominator: the lower end, the
value, the upper end. Above a power of two the gap below is half as wide. -/
def roundingInterval (m : Nat) (e : Int) : Nat × Nat × Nat × Nat :=
  let low := if m = leastFull ∧ e ≠ minExponent then 4 * m - 1 else 4 * m - 2
  let s := fraction 1 (e - 2)
  (low * s.1, 4 * m * s.1, (4 * m + 2) * s.1, s.2)

/-- The least `p` with `num / den < 10 ^ p`, searched upwards from `p` for at most `fuel` steps. -/
def magnitudeFrom (num den : Nat) : Nat → Int → Int
  | 0, p => p
  | fuel + 1, p =>
    let below := if p ≥ 0 then num < den * Nat.pow 10 p.toNat else num * Nat.pow 10 (-p).toNat < den
    if below then p else magnitudeFrom num den fuel (p + 1)

/-- A number of decimal places that is surely too small for `num / den`, three binary places
counting as less than one decimal place. -/
def magnitude (num den : Nat) : Int :=
  let bits : Int := (num.log2 : Int) - (den.log2 : Int)
  let start := bits * 301 / 1000 - 2
  magnitudeFrom num den 8 start

/-- The decimal number with at most `n` digits that lies in the rounding interval and is nearest to
the value, if there is one: its digits and the power of ten they are counted in. -/
def withDigits (low val high den : Nat) (closed : Bool) (place : Int) : Option (Nat × Int) :=
  let s : Nat × Nat :=
    if place ≥ 0 then (1, Nat.pow 10 place.toNat) else (Nat.pow 10 (-place).toNat, 1)
  -- in units of `10 ^ place`, everything is a numerator over `den * s.2`
  let unit := den * s.2
  let v := val * s.1
  let down := v / unit
  let fits (d : Nat) : Bool :=
    if closed then low * s.1 ≤ d * unit ∧ d * unit ≤ high * s.1
    else low * s.1 < d * unit ∧ d * unit < high * s.1
  let r := v % unit
  let nearer := if 2 * r < unit then down else if 2 * r > unit then down + 1 else down + down % 2
  let other := if nearer = down then down + 1 else down
  if fits nearer then some (nearer, place)
  else if fits other then some (other, place)
  else none

/-- The first of `n, n + 1, …` digits that suffice, tried at most `fuel` times. -/
def shortestFrom (low val high den : Nat) (closed : Bool) (top : Int) : Nat → Nat → Nat × Int
  | 0, n => ((withDigits low val high den closed (top - n)).getD (0, 0))
  | fuel + 1, n =>
    match withDigits low val high den closed (top - n) with
    | some r => r
    | none => shortestFrom low val high den closed top fuel (n + 1)

/-- A decimal number without trailing zeros in its digits. -/
def dropZeros : Nat → Nat × Int → Nat × Int
  | 0, r => r
  | fuel + 1, (d, p) => if d ≠ 0 ∧ d % 10 = 0 then dropZeros fuel (d / 10, p + 1) else (d, p)

/-- The shortest decimal number `digits · 10 ^ power` that reads back as `m · 2 ^ e`. -/
def shortest (m : Nat) (e : Int) : Nat × Int :=
  if m = 0 then (0, 0)
  else
    let i := roundingInterval m e
    let top := magnitude i.2.1 i.2.2.2
    dropZeros 20 (shortestFrom i.1 i.2.1 i.2.2.1 i.2.2.2 (m % 2 == 0) top 16 1)

/-- `digits · 10 ^ power` with a point and no exponent; `whole` is written after the digits of a
whole number. -/
def positional (whole : List Char) (digits : Nat) (power : Int) : List Char :=
  let ds := Nat.toDigits 10 digits
  if power ≥ 0 then ds ++ List.replicate power.toNat '0' ++ whole
  else
    let places := (-power).toNat
    if places < ds.length then ds.take (ds.length - places) ++ '.' :: ds.drop (ds.length - places)
    else '0' :: '.' :: List.replicate (places - ds.length) '0' ++ ds

/-- `digits · 10 ^ power` with one digit before the point and a signed exponent. -/
def scientific (digits : Nat) (power : Int) : List Char :=
  let ds := Nat.toDigits 10 digits
  let e := power + (ds.length : Int) - 1
  let mantissa := match ds with
    | d :: r@(_ :: _) => d :: '.' :: r
    | _ => ds
  mantissa ++ 'e' :: (if e < 0 then '-' else '+') :: Nat.toDigits 10 e.natAbs

/-- The text of a number that never uses an exponent: `2`, `-125`, `0.1`. -/
def plainText : Binary64 → String
  | .nan => "NaN"
  | .infinite s => if s then "-inf" else "inf"
  | .finite s m e =>
    let d := shortest m e
    String.ofList ((if s then ['-'] else []) ++ positional [] d.1 d.2)

/-- The text of a number with so many digits behind the point, the last one rounded; a tie goes to
the even digit. -/
def fixedText (places : Nat) : Binary64 → String
  | .nan => "NaN"
  | .infinite s => if s then "-inf" else "inf"
  | .finite s m e =>
    let a := fraction m e
    let ds := Text.paddedDigits (places + 1) (divNearest (a.1 * Nat.pow 10 places) a.2)
    let point := if places = 0 then [] else ['.']
    String.ofList ((if s then ['-'] else []) ++ ds.take (ds.length - places) ++ point ++
      ds.drop (ds.length - places))

/-- The text of a number in a JSON document: from `1e-5` up to `1e16` with a point, so that it is
seen to be no integer, and with an exponent elsewhere. What JSON cannot express is `null`. -/
def jsonText : Binary64 → String
  | .nan | .infinite _ => "null"
  | .finite s m e =>
    let d := shortest m e
    let places : Int := d.2 + ((Nat.toDigits 10 d.1).length : Int)
    let body :=
      if m = 0 ∨ (-5 < places ∧ places ≤ 16) then positional ['.', '0'] d.1 d.2
      else scientific d.1 d.2
    String.ofList ((if s then ['-'] else []) ++ body)

end Reindex.Binary64
