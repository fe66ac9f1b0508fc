import RequestBinding.Number.Binary64

/-!
# Shortest decimal text of a double

The text of a double has the fewest significant digits that read back as the same double; of
several such decimals it is the nearest. Exponents from -5 to 15 are written positionally, with
at least one digit on either side of the point; others with a signed exponent.

## Main definitions

* `Binary64.digits` - the shortest digits and the decimal exponent of a positive double
* `Binary64.render` - the text of a double
-/

namespace RequestBinding.Binary64

/-- The decimals that read back as a double: those between `low` and `high` over the common
denominator `den`, the ends included exactly if `closed`. -/
structure Interval where
  value : Nat
  low : Nat
  high : Nat
  den : Nat
  closed : Bool
  deriving Repr

/-- The interval of a positive double: half way to its neighbours, where the lower neighbour of a
power of two is nearer. -/
def interval (x : Binary64) : Interval :=
  let narrow := x.mantissa == Nat.pow 2 52 && minExponent < x.exponent
  let (v, lo, hi) := (4 * x.mantissa, 4 * x.mantissa - (if narrow then 1 else 2), 4 * x.mantissa + 2)
  let closed := x.mantissa % 2 == 0
  if 0 ≤ x.exponent then
    let p := Nat.pow 2 x.exponent.toNat
    ⟨v * p, lo * p, hi * p, 4, closed⟩
  else ⟨v, lo, hi, 4 * Nat.pow 2 (-x.exponent).toNat, closed⟩

/-- Whether `n * num / den'` lies in an interval, where `num / den'` is the grid width. -/
def Interval.holds (i : Interval) (n num den' : Nat) : Bool :=
  let left := n * num * i.den
  if i.closed then i.low * den' ≤ left && left ≤ i.high * den'
  else i.low * den' < left && left < i.high * den'

/-- Ten to an integer power, as numerator and denominator. -/
def tenTo (e : Int) : Nat × Nat :=
  if 0 ≤ e then (Nat.pow 10 e.toNat, 1) else (1, Nat.pow 10 (-e).toNat)

/-- The nearest point of the grid of width `10^e` that lies in an interval. -/
def Interval.gridPoint (i : Interval) (e : Int) : Option Nat :=
  let (num, den') := tenTo e
  let below := i.value * den' / (i.den * num)
  let rest := i.value * den' - below * (i.den * num)
  match i.holds below num den', i.holds (below + 1) num den' with
  | true, true =>
    let twice := 2 * rest
    let unit := i.den * num
    if twice < unit || (twice == unit && below % 2 == 0) then some below else some (below + 1)
  | true, false => some below
  | false, true => some (below + 1)
  | false, false => none

/-- The greatest `k` with `10^k ≤ num / den` for a positive fraction, searched upwards from a
start that is not above it. -/
def magnitudeFrom (num den : Nat) : Nat → Int → Int
  | 0, k => k
  | fuel + 1, k =>
    let (n, d) := tenTo (k + 1)
    if n * den ≤ num * d then magnitudeFrom num den fuel (k + 1) else k

/-- The decimal exponent of a positive double. -/
def magnitude (x : Binary64) : Int :=
  let (num, den) := x.toRatio
  let bits : Int := (Nat.log2 num : Int) - Nat.log2 den - 1
  magnitudeFrom num den 8 (bits * 30103 / 100000 - 1)

/-- Tries grids from coarse to fine; the finest one has seventeen digits. -/
def gridSearch (i : Interval) (k : Int) : Nat → Nat → Option (Nat × Int)
  | 0, _ => none
  | fuel + 1, count =>
    let e := k - count
    match i.gridPoint e with
    | some n => if n == 0 then gridSearch i k fuel (count + 1) else some (n, e)
    | none => gridSearch i k fuel (count + 1)

/-- Removes the zeros at the end of a decimal `n * 10^e`. -/
def dropZeros : Nat → Nat → Int → Nat × Int
  | 0, n, e => (n, e)
  | fuel + 1, n, e => if n % 10 == 0 && n != 0 then dropZeros fuel (n / 10) (e + 1) else (n, e)

/-- The shortest digits of a positive double and the decimal exponent of the first digit. -/
def digits (x : Binary64) : List Char × Int :=
  let (n, e) := (gridSearch x.interval x.magnitude 18 0).getD (0, 0)
  let (n, e) := dropZeros 400 n e
  let ds := Nat.toDigits 10 n
  (ds, e + ds.length - 1)

/-- Digits with the point after the digit of exponent zero. -/
def positional (ds : List Char) (exponent : Int) : List Char :=
  if exponent < 0 then
    '0' :: '.' :: (List.replicate (-exponent - 1).toNat '0' ++ ds)
  else
    let whole := exponent.toNat + 1
    if ds.length ≤ whole then ds ++ List.replicate (whole - ds.length) '0' ++ ['.', '0']
    else ds.take whole ++ '.' :: ds.drop whole

/-- Digits with the point after the first one, and an exponent that always has a sign. -/
def scientific (ds : List Char) (exponent : Int) : List Char :=
  let tail := 'e' :: (if exponent < 0 then '-' else '+') :: Nat.toDigits 10 exponent.natAbs
  match ds with
  | d :: d' :: more => d :: '.' :: d' :: more ++ tail
  | short => short ++ tail

/-- The text of a double. -/
def renderChars (x : Binary64) : List Char :=
  let body :=
    if x.isZero then ['0', '.', '0']
    else
      let (ds, exponent) := x.digits
      if -5 ≤ exponent && exponent ≤ 15 then positional ds exponent else scientific ds exponent
  if x.negative then '-' :: body else body

end RequestBinding.Binary64
