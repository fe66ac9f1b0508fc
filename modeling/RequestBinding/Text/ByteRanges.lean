import RequestBinding.Text.Utf8
import RequestBinding.Unicode.RangeSet

/-!
# UTF-8 forms of sets of characters

The UTF-8 forms of the characters of a set can be told by sequences of byte ranges: the first byte
of a form lies in the first range, the second byte in the second, and so on. A range of characters
is cut until the forms of all characters of a piece have the same length and the bytes vary
independently.

## Main definitions

* `pieces` - the pieces of a range of characters
* `byteRanges` - the sequences of byte ranges of a set
-/

namespace RequestBinding.Utf8

open RequestBinding.Unicode

/-- The part of a range between two bounds, if there is any. -/
def within (low high : Nat) (r : Nat × Nat) : List (Nat × Nat) :=
  let first := max low r.1
  let last := min high r.2
  if first ≤ last then [(first, last)] else []

/-- The parts of a range without the surrogates, by the length of the forms. -/
def byLength (r : Nat × Nat) : List (Nat × Nat) :=
  within 0 0x7F r ++ within 0x80 0x7FF r ++ within 0x800 0xD7FF r ++ within 0xE000 0xFFFF r ++
    within 0x10000 0x10FFFF r

/-- The start of the second piece of a range whose last bytes do not vary independently of the bytes
before them. -/
def cut? (a b : Nat) : Option Nat :=
  [64, 4096, 262144].findSome? fun w =>
    if a / w == b / w then none
    else if a % w != 0 then some ((a / w + 1) * w)
    else if b % w != w - 1 then some (b / w * w)
    else none

/-- The pieces of a range whose forms have the same length. -/
def pieces (a b : Nat) : List (Nat × Nat) :=
  match cut? a b with
  | some c => if _h : a < c ∧ c ≤ b then pieces a (c - 1) ++ pieces c b else [(a, b)]
  | none => [(a, b)]
  termination_by b - a

/-- The bytes of a code point. -/
def bytesOf (n : Nat) : List Nat := (encodeChar (Char.ofNat n)).map UInt8.toNat

/-- The sequences of byte ranges that tell the UTF-8 forms of the characters of a set. ASCII
characters need no cuts. -/
def byteRanges (s : RangeSet) : List (List (Nat × Nat)) :=
  (s.ranges.flatMap byLength).flatMap fun r =>
    if r.2 < 0x80 then [[r]]
    else (pieces r.1 r.2).map fun p => (bytesOf p.1).zip (bytesOf p.2)

end RequestBinding.Utf8
