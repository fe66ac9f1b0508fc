/-!
# Finite double-precision numbers

A finite IEEE 754 binary64 number as sign, mantissa and exponent, with rounding from exact
fractions. All arithmetic is on natural numbers, so every result can be computed in a proof.

## Main definitions

* `Binary64` - a finite double
* `Binary64.ofRatio` - the nearest double to a fraction, ties to even
* `Binary64.ofDecimal` - the double that a decimal literal denotes
-/

namespace RequestBinding

/-- The number `(-1)^negative * mantissa * 2^exponent`. Numbers made by this library have a
mantissa below `2^53` and, unless the exponent is the least one, at least `2^52`. -/
structure Binary64 where
  negative : Bool
  mantissa : Nat
  exponent : Int
  deriving Repr, DecidableEq

namespace Binary64

/-- The least exponent, that of the subnormal numbers. -/
def minExponent : Int := -1074

/-- The greatest exponent. -/
def maxExponent : Int := 971

/-- Zero of either sign. -/
def zero (negative : Bool) : Binary64 := ⟨negative, 0, minExponent⟩

/-- Whether a number is zero of either sign. -/
def isZero (x : Binary64) : Bool := x.mantissa == 0

/-- The fraction `num / den / 2^e` as numerator and denominator. -/
def scaled (num den : Nat) (e : Int) : Nat × Nat :=
  if 0 ≤ e then (num, den * Nat.pow 2 e.toNat) else (num * Nat.pow 2 (-e).toNat, den)

/-- A fraction rounded to the nearest integer, a half to the even one. -/
def roundEven (num den : Nat) : Nat :=
  let q := num / den
  let twice := 2 * (num % den)
  if twice < den then q else if den < twice then q + 1 else if q % 2 == 0 then q else q + 1

/-- The exponent at which a positive fraction has 53 bits before the binary point, but no less
than the least exponent. -/
def exponentFor (num den : Nat) : Int :=
  let guess : Int := (Nat.log2 num : Int) - Nat.log2 den - 52
  let (n, d) := scaled num den guess
  max minExponent (if n / d < Nat.pow 2 52 then guess - 1 else guess)

/-- The nearest double to `num / den`, or none if it exceeds the greatest finite one. -/
def ofRatio (negative : Bool) (num den : Nat) : Option Binary64 :=
  if num == 0 then some (zero negative)
  else
    let e := exponentFor num den
    let (n, d) := scaled num den e
    let m := roundEven n d
    let (m, e) := if m == Nat.pow 2 53 then (Nat.pow 2 52, e + 1) else (m, e)
    if maxExponent < e then none else some ⟨negative, m, if m == 0 then minExponent else e⟩

/-- The magnitude as a fraction. -/
def toRatio (x : Binary64) : Nat × Nat :=
  if 0 ≤ x.exponent then (x.mantissa * Nat.pow 2 x.exponent.toNat, 1)
  else (x.mantissa, Nat.pow 2 (-x.exponent).toNat)

/-- The product of magnitudes, with the sign of the first factor. -/
def scale? (x y : Binary64) : Option Binary64 :=
  let (a, b) := x.toRatio
  let (c, d) := y.toRatio
  ofRatio x.negative (a * c) (b * d)

/-- The quotient of magnitudes, with the sign of the dividend. The divisor is not zero. -/
def divide? (x y : Binary64) : Option Binary64 :=
  let (a, b) := x.toRatio
  let (c, d) := y.toRatio
  ofRatio x.negative (a * d) (b * c)

/-- The double nearest to a power of ten up to `10^308`. -/
def powerOfTen (k : Nat) : Binary64 :=
  (ofRatio false (Nat.pow 10 k) 1).getD (zero false)

/-- Divides by `10^308` until what is left of a negative exponent is one that a power of ten in
range covers, or nothing is left of the number. -/
def shrink : Nat → Binary64 → Int → Binary64 × Int
  | 0, x, e => (x, e)
  | fuel + 1, x, e =>
    if -308 ≤ e || x.isZero then (x, e)
    else shrink fuel ((x.divide? (powerOfTen 308)).getD x) (e + 308)

/-- The double of a decimal literal: the significand is rounded, and then multiplied or divided
by a power of ten with a second rounding. None if the result is too large. -/
def ofDecimal (negative : Bool) (significand : Nat) (exponent : Int) : Option Binary64 :=
  match ofRatio negative significand 1 with
  | none => none
  | some x =>
    if 0 ≤ exponent then
      if exponent ≤ 308 then x.scale? (powerOfTen exponent.toNat)
      else if x.isZero then some x
      else none
    else
      let (y, e) := shrink 8 x exponent
      if y.isZero then some y else y.divide? (powerOfTen (-e).toNat)

end Binary64

end RequestBinding
