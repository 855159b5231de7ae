/-!
# Double-precision numbers

A finite double is a whole mantissa times a power of two. Reading a decimal rounds it
to the nearest double, a tie to the even mantissa; what is too large becomes infinite
and what is too small becomes zero. All arithmetic is exact arithmetic on whole numbers.
-/

namespace TestScribe

/-- A double: `mantissa · 2 ^ exponent` with a sign, an infinity, or no number. -/
inductive Binary64
  | finite (negative : Bool) (mantissa : Nat) (exponent : Int)
  | infinite (negative : Bool)
  | notANumber
deriving Repr, DecidableEq

namespace Binary64

/-- The exponent of the smallest positive double. -/
def leastExponent : Int := -1074

/-- The exponent of the largest finite double. -/
def greatestExponent : Int := 971

/-- The quotient of two whole numbers to the nearest whole number, a tie to the even
one. -/
def roundDiv (num den : Nat) : Nat :=
  let q := num / den
  let r := num % den
  if 2 * r < den then q
  else if den < 2 * r then q + 1
  else if q % 2 = 0 then q else q + 1

/-- A quotient divided by `2 ^ e`, as numerator and denominator. -/
def unscale (num den : Nat) (e : Int) : Nat × Nat :=
  if 0 ≤ e then (num, den * Nat.pow 2 e.toNat) else (num * Nat.pow 2 (-e).toNat, den)

/-- The exponent at which the quotient has a mantissa of 53 bits, but none below the
least. -/
def exponentOf (num den : Nat) : Int :=
  let guess : Int := (num.log2 : Int) - den.log2 - 52
  let (n, d) := unscale num den guess
  max leastExponent (if n < d * Nat.pow 2 52 then guess - 1 else guess)

/-- The double nearest to a quotient. -/
def ofRatio (negative : Bool) (num den : Nat) : Binary64 :=
  if num = 0 then .finite negative 0 leastExponent
  else
    let e := exponentOf num den
    let (n, d) := unscale num den e
    let m := roundDiv n d
    let (m, e) := if m = Nat.pow 2 53 then (Nat.pow 2 52, e + 1) else (m, e)
    if greatestExponent < e then .infinite negative else .finite negative m e

/-- Beyond this power of ten every number is infinite, and below its inverse zero. -/
def decimalBound : Int := 400

/-- The double nearest to `digits · 10 ^ exponent`. -/
def ofDecimal (negative : Bool) (digits : Nat) (exponent : Int) : Binary64 :=
  let magnitude : Int := (Nat.toDigits 10 digits).length + exponent
  if digits = 0 || magnitude < -decimalBound then .finite negative 0 leastExponent
  else if decimalBound < magnitude then .infinite negative
  else if 0 ≤ exponent then ofRatio negative (digits * Nat.pow 10 exponent.toNat) 1
  else ofRatio negative digits (Nat.pow 10 (-exponent).toNat)

/-- The double nearest to a whole number. -/
def ofInt (n : Int) : Binary64 := ofDecimal (decide (n < 0)) n.natAbs 0

/-- An infinity of either sign. -/
def isInfinite : Binary64 → Bool
  | .infinite _ => true
  | _ => false

/-- The size of a finite double as numerator and denominator. -/
def magnitude (mantissa : Nat) (exponent : Int) : Nat × Nat :=
  if 0 ≤ exponent then (mantissa * Nat.pow 2 exponent.toNat, 1)
  else (mantissa, Nat.pow 2 (-exponent).toNat)

/-- Zero of either sign. -/
def isZero : Binary64 → Bool
  | .finite _ m _ => m == 0
  | _ => false

/-- The whole number next to a finite double toward zero. -/
def truncate? : Binary64 → Option Int
  | .finite negative m e =>
    let (n, d) := magnitude m e
    let whole : Int := (n / d : Nat)
    some (if negative then -whole else whole)
  | _ => none

/-- The whole number that a double is. -/
def whole? : Binary64 → Option Int
  | .finite negative m e =>
    let (n, d) := magnitude m e
    let whole : Int := (n / d : Nat)
    if n % d = 0 then some (if negative then -whole else whole) else none
  | _ => none

/-- The double is this whole number. -/
def isNat (x : Binary64) (k : Nat) : Bool :=
  match x with
  | .finite negative m e =>
    let (n, d) := magnitude m e
    n == k * d && (!negative || k == 0)
  | _ => false

end Binary64
end TestScribe
