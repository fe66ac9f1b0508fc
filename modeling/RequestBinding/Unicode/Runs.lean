import RequestBinding.Unicode.RangeSet

/-!
# Run-length texts

A classification of all code points is kept as a run-length text: the code of a class, which is a
capital letter with small letters after it, and the number of consecutive code points that belong
to the class. A code without a number stands for one code point.

## Main definitions

* `Run` - consecutive code points of one class
* `Run.readAll` - the runs of a text
* `Run.codeAt` - the class of a code point
* `Run.select` - the code points of certain classes
-/

namespace RequestBinding.Unicode

/-- The code points from `first` to `last`, which belong to the class `code`. -/
structure Run where
  code : String
  first : Nat
  last : Nat
  deriving Repr, DecidableEq

namespace Run

/-- Reads runs from the code point `start` on, given the letters of the code, latest first, and the
number that have been read. -/
def read (start : Nat) (code : List Char) (count : Nat) : List Char → List Run
  | [] => [⟨String.ofList code.reverse, start, start + (max count 1 - 1)⟩]
  | c :: rest =>
    if c.isDigit then read start code (10 * count + (c.toNat - '0'.toNat)) rest
    else if c.isUpper && !code.isEmpty then
      ⟨String.ofList code.reverse, start, start + (max count 1 - 1)⟩ ::
        read (start + max count 1) [c] 0 rest
    else read start (c :: code) count rest

/-- The runs of a text, in order. -/
def readAll (text : String) : List Run := read 0 [] 0 text.toList

/-- The code of the class of a code point. -/
def codeAt (runs : List Run) (n : Nat) : Option String :=
  (runs.find? fun r => n ≤ r.last).map Run.code

/-- The code points whose class is among those that `p` selects. -/
def select (runs : List Run) (p : String → Bool) : RangeSet :=
  RangeSet.ofAscending ((runs.filter fun r => p r.code).map fun r => (r.first, r.last))

end Run

end RequestBinding.Unicode
