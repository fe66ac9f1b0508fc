import RequestBinding.Unicode.CaseTable
import RequestBinding.Unicode.RangeSet

/-!
# Case variants

Two characters are case variants if they differ at most in case. Every class of variants is named
by its least member.

## Main definitions

* `caseVariants` - the characters that differ from one at most in case
* `RangeSet.fold`, `RangeSet.foldAscii` - closes a set under case variants
-/

namespace RequestBinding.Unicode

/-- The least code point among the case variants of a character. -/
def foldKey (n : Nat) : Nat := shiftBy foldShifts n

/-- The code points that a shift moves to `key`. -/
def Shift.sources (s : Shift) (key : Nat) : List Nat :=
  let n := ((key : Int) - s.distance).toNat
  if s.covers n && s.move n == key then [n] else []

/-- The code points that differ from a code point at most in case, itself included. -/
def caseVariants (n : Nat) : List Nat :=
  let key := foldKey n
  key :: foldShifts.flatMap (·.sources key)

/-- The code points with a lesser case variant, each with the least one. -/
def foldPairs : List (Nat × Nat) :=
  foldShifts.flatMap fun s => s.points.map fun n => (n, s.move n)

namespace RangeSet

/-- Adds to a set the case variants of its members. -/
def fold (s : RangeSet) : RangeSet :=
  let pairs := foldPairs.filter fun p => s.mem p.1 || s.mem p.2
  let keys := (pairs.map Prod.snd).eraseDups
  s.union (ofPoints (keys.flatMap caseVariants))

/-- Adds to a set the case variants among ASCII letters of its members. -/
def foldAscii (s : RangeSet) : RangeSet :=
  let small := s.inter (range 0x61 0x7A)
  let capital := s.inter (range 0x41 0x5A)
  (s.union ⟨small.ranges.map fun r => (r.1 - 32, r.2 - 32)⟩).union
    ⟨capital.ranges.map fun r => (r.1 + 32, r.2 + 32)⟩

end RangeSet

end RequestBinding.Unicode
