/-!
# Sets of code points

A set of code points is kept as closed ranges in ascending order with a gap after each, so that
equal sets have equal ranges. Surrogates are code points but no characters; a bound that an
operation moves across them lands on the character on the other side.

## Main definitions

* `RangeSet` - the sets
* `RangeSet.mem` - membership
* `RangeSet.union`, `RangeSet.inter`, `RangeSet.compl`, `RangeSet.diff`, `RangeSet.symmDiff`
* `RangeSet.ofRanges`, `RangeSet.ofAscending` - sets of listed ranges
* `RangeSet.ofText` - reads ranges in hexadecimal digits
-/

namespace RequestBinding.Unicode

/-- A set of code points: closed ranges in ascending order with a gap after each. -/
structure RangeSet where
  ranges : List (Nat × Nat)
  deriving Repr, DecidableEq, Inhabited

namespace RangeSet

/-- The greatest code point. -/
def top : Nat := 0x10FFFF

/-- The empty set. -/
def empty : RangeSet := ⟨[]⟩

/-- The code points from `low` to `high`. -/
def range (low high : Nat) : RangeSet := ⟨[(low, high)]⟩

/-- All code points. -/
def all : RangeSet := range 0 top

/-- The set of one character. -/
def single (c : Char) : RangeSet := range c.toNat c.toNat

/-- Whether a code point belongs to a set. -/
def mem (s : RangeSet) (n : Nat) : Bool := s.ranges.any fun r => r.1 ≤ n && n ≤ r.2

/-- Whether a set has no members. -/
def isEmpty (s : RangeSet) : Bool := s.ranges.isEmpty

/-- The only member of a set, if it has exactly one. -/
def only? (s : RangeSet) : Option Char :=
  match s.ranges with
  | [(low, high)] => if low == high then some (Char.ofNat low) else none
  | _ => none

/-- Whether all members of a set are ASCII characters. -/
def isAscii (s : RangeSet) : Bool := s.ranges.all fun r => r.2 < 128

/-! ## Union -/

/-- Adds a range to ascending ranges. Ranges that overlap it or touch it are joined with it. -/
def insert (r : Nat × Nat) : List (Nat × Nat) → List (Nat × Nat)
  | [] => [r]
  | s :: rest =>
    if r.2 + 1 < s.1 then r :: s :: rest
    else if s.2 + 1 < r.1 then s :: insert r rest
    else insert (min r.1 s.1, max r.2 s.2) rest

/-- The code points of either set. -/
def union (s t : RangeSet) : RangeSet := ⟨t.ranges.foldl (fun rs r => insert r rs) s.ranges⟩

/-- The code points of ranges in any order. -/
def ofRanges (rs : List (Nat × Nat)) : RangeSet := ⟨rs.foldl (fun rs r => insert r rs) []⟩

/-- The set of listed code points. -/
def ofPoints (ns : List Nat) : RangeSet := ofRanges (ns.map fun n => (n, n))

/-- Joins the ranges of an ascending list that touch. -/
def joinTouching (r : Nat × Nat) : List (Nat × Nat) → List (Nat × Nat)
  | [] => [r]
  | s :: rest =>
    if s.1 ≤ r.2 + 1 then joinTouching (r.1, max r.2 s.2) rest else r :: joinTouching s rest

/-- The code points of ranges in ascending order. -/
def ofAscending : List (Nat × Nat) → RangeSet
  | [] => empty
  | r :: rest => ⟨joinTouching r rest⟩

/-- The union of a list of sets. -/
def unions (ss : List RangeSet) : RangeSet := ss.foldl union empty

/-! ## Complement and intersection -/

/-- The code point after one, past the surrogates. -/
def after (n : Nat) : Nat := if n == 0xD7FF then 0xE000 else n + 1

/-- The code point before one, past the surrogates. -/
def before (n : Nat) : Nat := if n == 0xE000 then 0xD7FF else n - 1

/-- The ranges between ascending ranges and after the last, given the end of the range before
them. A gap that consists of surrogates alone is written with the characters next to it. -/
def gaps (last : Nat) : List (Nat × Nat) → List (Nat × Nat)
  | [] => if last < top then [(after last, top)] else []
  | r :: rest =>
    (min (after last) (before r.1), max (after last) (before r.1)) :: gaps r.2 rest

/-- The code points outside a set. -/
def compl (s : RangeSet) : RangeSet :=
  match s.ranges with
  | [] => all
  | r :: rest => ⟨(if 0 < r.1 then [(0, before r.1)] else []) ++ gaps r.2 rest⟩

/-- What two ranges have in common. -/
def common (r s : Nat × Nat) : Option (Nat × Nat) :=
  let low := max r.1 s.1
  let high := min r.2 s.2
  if low ≤ high then some (low, high) else none

/-- The code points of both sets. -/
def inter (s t : RangeSet) : RangeSet :=
  ⟨s.ranges.flatMap fun r => t.ranges.filterMap (common r)⟩

/-- The code points of the first set outside the second. -/
def diff (s t : RangeSet) : RangeSet := s.inter t.compl

/-- The code points of exactly one of two sets. -/
def symmDiff (s t : RangeSet) : RangeSet := (s.union t).diff (s.inter t)

/-! ## Text -/

/-- The value of a hexadecimal digit. -/
def digitValue (c : Char) : Nat :=
  if c.isDigit then c.toNat - '0'.toNat else c.toNat - 'A'.toNat + 10

/-- Reads ranges, given the bounds of the range that is being read. -/
def readText : Nat → Option Nat → List Char → List (Nat × Nat)
  | n, low, [] => [(low.getD n, n)]
  | n, low, c :: rest =>
    if c == ' ' then (low.getD n, n) :: readText 0 none rest
    else if c == '-' then readText 0 (some n) rest
    else readText (16 * n + digitValue c) low rest

/-- The set that a text lists: ascending code points and ranges such as `41-5A`, in hexadecimal
digits, with single blanks between them. -/
def ofText (text : String) : RangeSet := ofAscending (readText 0 none text.toList)

end RangeSet

end RequestBinding.Unicode
