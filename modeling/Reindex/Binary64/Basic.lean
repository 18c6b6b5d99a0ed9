/-!
# Numbers of binary64 precision

The 64-bit floating numbers of tuning files and JSON texts, held as sign, mantissa and exponent, so
that every operation on them is exact arithmetic on natural numbers followed by one rounding.

`Binary64.round` is that rounding: the nearest representable number, and of two equally near ones
the one with the even mantissa. Products and quotients are the rounding of the exact result.
-/

namespace Reindex

/-- A binary64 number. `finite s m e` is `± m · 2 ^ e` with `m < 2 ^ 53` and `-1074 ≤ e`, where
`m` has all 53 digits unless `e = -1074`; zero keeps its sign. -/
inductive Binary64 where
  | nan
  | infinite (negative : Bool)
  | finite (negative : Bool) (mantissa : Nat) (exponent : Int)
deriving DecidableEq, Repr, Inhabited

namespace Binary64

/-- The exponent of the smallest positive number. -/
def minExponent : Int := -1074

/-- The exponent of the largest finite numbers. -/
def maxExponent : Int := 971

def zero (negative : Bool) : Binary64 := .finite negative 0 minExponent

/-- The least mantissa of 53 binary digits. -/
def leastFull : Nat := 1 <<< 52

/-- `num / den · 2 ^ (-e)` as a fraction of natural numbers. -/
def scaled (num den : Nat) (e : Int) : Nat × Nat :=
  if e ≥ 0 then (num, den <<< e.toNat) else (num <<< (-e).toNat, den)

/-- The quotient rounded to the nearest integer, a tie to the even one. -/
def divNearest (num den : Nat) : Nat :=
  let q := num / den
  let r := num % den
  if 2 * r < den then q
  else if 2 * r > den then q + 1
  else q + q % 2

/-- The exponent at which `num / den` has a mantissa of 53 binary digits, or the least one there
is. -/
def exponentFor (num den : Nat) : Int :=
  let e : Int := (num.log2 : Int) - (den.log2 : Int) - 52
  let s := scaled num den e
  let e := if s.1 / s.2 < leastFull then e - 1 else e
  max e minExponent

/-- The representable number nearest to `± num / den`. -/
def round (negative : Bool) (num den : Nat) : Binary64 :=
  if num = 0 then zero negative
  else
    let e := exponentFor num den
    let s := scaled num den e
    let m := divNearest s.1 s.2
    let m' := if m = 2 * leastFull then leastFull else m
    let e' := if m = 2 * leastFull then e + 1 else e
    if e' > maxExponent then .infinite negative else .finite negative m' e'

def ofNat (n : Nat) : Binary64 := round false n 1

/-- The number nearest to `± digits · 10 ^ power`. Powers far outside the range of the format are
answered without computing them. -/
def ofDecimal (negative : Bool) (digits : Nat) (power : Int) : Binary64 :=
  if digits = 0 then zero negative
  else if power > 400 then .infinite negative
  else if power < -(400 + (digits.log2 : Int)) then zero negative
  else if power ≥ 0 then round negative (digits * Nat.pow 10 power.toNat) 1
  else round negative digits (Nat.pow 10 (-power).toNat)

def isNegative : Binary64 → Bool
  | .nan => false
  | .infinite s => s
  | .finite s _ _ => s

def isInfinite : Binary64 → Bool
  | .infinite _ => true
  | _ => false

def isZero : Binary64 → Bool
  | .finite _ 0 _ => true
  | _ => false

def neg : Binary64 → Binary64
  | .nan => .nan
  | .infinite s => .infinite (!s)
  | .finite s m e => .finite (!s) m e

/-- The magnitude `m · 2 ^ e` as a fraction. -/
def fraction (m : Nat) (e : Int) : Nat × Nat :=
  if e ≥ 0 then (m <<< e.toNat, 1) else (m, 1 <<< (-e).toNat)

def mul : Binary64 → Binary64 → Binary64
  | .nan, _ | _, .nan => .nan
  | .infinite s, .infinite t => .infinite (s != t)
  | .infinite s, .finite t m _ | .finite t m _, .infinite s =>
    if m = 0 then .nan else .infinite (s != t)
  | .finite s m e, .finite t n f =>
    let a := fraction (m * n) (e + f)
    round (s != t) a.1 a.2

def div : Binary64 → Binary64 → Binary64
  | .nan, _ | _, .nan => .nan
  | .infinite _, .infinite _ => .nan
  | .infinite s, .finite t _ _ => .infinite (s != t)
  | .finite s _ _, .infinite t => zero (s != t)
  | .finite s m e, .finite t n f =>
    if n = 0 then (if m = 0 then .nan else .infinite (s != t))
    else
      let a := fraction m (e - f)
      round (s != t) a.1 (a.2 * n)

/-- The value in units of the smallest positive number. -/
def units (negative : Bool) (m : Nat) (e : Int) : Int :=
  let u : Int := (m <<< (e - minExponent).toNat : Nat)
  if negative then -u else u

/-- Strictly smaller; a NaN is comparable with nothing, and both zeros are equal. -/
def lt : Binary64 → Binary64 → Bool
  | .nan, _ | _, .nan => false
  | .infinite s, .infinite t => s && !t
  | .infinite s, .finite .. => s
  | .finite .., .infinite t => !t
  | .finite s m e, .finite t n f => units s m e < units t n f

/-- The smaller of two numbers; a NaN gives way to the other one. -/
def min (a b : Binary64) : Binary64 :=
  match a, b with
  | .nan, b => b
  | a, .nan => a
  | a, b => if lt b a then b else a

/-- The larger of two numbers; a NaN gives way to the other one. -/
def max (a b : Binary64) : Binary64 :=
  match a, b with
  | .nan, b => b
  | a, .nan => a
  | a, b => if lt a b then b else a

/-- The whole part, within the bounds `0` and `top`; a NaN counts as zero. -/
def toNatWithin (top : Nat) : Binary64 → Nat
  | .nan => 0
  | .infinite true => 0
  | .infinite false => top
  | .finite true _ _ => 0
  | .finite false m e =>
    let a := fraction m e
    Nat.min (a.1 / a.2) top

end Binary64

end Reindex
