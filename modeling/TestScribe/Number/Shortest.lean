import TestScribe.Text.Basic
import TestScribe.Number.Binary64

/-!
# The shortest decimal of a double

A double is shown by the fewest digits that read back as the same double, and of
several such numerals by the nearest. How the digits are laid out is one record:
positional while the first digit stands between the ten-thousandths and the
quadrillions, else with a power of ten.
-/

namespace TestScribe.Shortest

/-- A decimal numeral: `digits · 10 ^ exponent`. -/
structure Numeral where
  digits : Nat
  exponent : Int
deriving Repr, DecidableEq

/-- `10 ^ e ≤ num / den`. -/
def powerLe (num den : Nat) (e : Int) : Bool :=
  if 0 ≤ e then Nat.pow 10 e.toNat * den ≤ num else den ≤ num * Nat.pow 10 (-e).toNat

/-- The place of the first digit of a positive quotient: the largest power of ten that
it reaches. -/
def leadingPlace (num den : Nat) : Int :=
  let guess : Int := ((Nat.toDigits 10 num).length : Int) - (Nat.toDigits 10 den).length
  if powerLe num den guess then guess else guess - 1

/-- The quotient in units of `10 ^ e`, as numerator and denominator. -/
def inUnits (num den : Nat) (e : Int) : Nat × Nat :=
  if 0 ≤ e then (num, den * Nat.pow 10 e.toNat) else (num * Nat.pow 10 (-e).toNat, den)

/-- The numeral with `count` digits that reads back as the double, if one of the two
neighbours of the double does; of two the nearer, and of two equally near the even one. -/
def withDigits? (mantissa : Nat) (exponent : Int) (count : Nat) : Option Numeral :=
  let (num, den) := Binary64.magnitude mantissa exponent
  let unit := leadingPlace num den - count + 1
  let (n, d) := inUnits num den unit
  let low := n / d
  let readsBack (k : Nat) : Bool :=
    Binary64.ofDecimal false k unit = Binary64.finite false mantissa exponent
  let nearest := Binary64.roundDiv n d
  let other := if nearest = low then low + 1 else low
  if readsBack nearest then some ⟨nearest, unit⟩
  else if readsBack other then some ⟨other, unit⟩
  else none

/-- The fewest digits that read back. Seventeen always do. -/
def numeral (mantissa : Nat) (exponent : Int) : Numeral :=
  ((List.range' 1 17).findSome? (withDigits? mantissa exponent)).getD ⟨mantissa, exponent⟩

/-! ## Layout -/

/-- How digits are laid out: the places of a first digit that are written
positionally, and the least number of digits in a power of ten. -/
structure Layout where
  leastPlace : Int
  greatestPlace : Int
  exponentDigits : Nat

/-- The layout of the numbers that this library shows. -/
def standard : Layout := ⟨-4, 15, 2⟩

/-- The digits of a numeral without zeros at the end, and the place of the first. -/
def significant (x : Numeral) : Text × Int :=
  let digits := Text.ofNat x.digits
  ((digits.reverse.dropWhile (· = '0')).reverse, digits.length - 1 + x.exponent)

/-- Digits written positionally; a whole number gets one zero after its point. -/
def positional (digits : Text) (place : Int) : Text :=
  if place < 0 then "0.".toList ++ List.replicate (-place - 1).toNat '0' ++ digits
  else
    let whole := place.toNat + 1
    if digits.length ≤ whole then
      digits ++ List.replicate (whole - digits.length) '0' ++ ".0".toList
    else digits.take whole ++ '.' :: digits.drop whole

/-- Digits with a power of ten: one before the point, the rest after it. -/
def scientific (l : Layout) (digits : Text) (place : Int) : Text :=
  let power := Text.ofNat place.natAbs
  let padded := List.replicate (l.exponentDigits - power.length) '0' ++ power
  let rest := digits.drop 1
  digits.take 1 ++ (if rest = [] then [] else '.' :: rest) ++
    ['e', if place < 0 then '-' else '+'] ++ padded

/-- The text of a double. -/
def render (l : Layout) : Binary64 → Text
  | .notANumber => "nan".toList
  | .infinite negative => if negative then "-inf".toList else "inf".toList
  | .finite negative m e =>
    let size :=
      if m = 0 then "0.0".toList
      else
        let (digits, place) := significant (numeral m e)
        if l.leastPlace ≤ place && place ≤ l.greatestPlace then positional digits place
        else scientific l digits place
    if negative then '-' :: size else size

end TestScribe.Shortest
