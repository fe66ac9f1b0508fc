import RequestBinding.Regex.Basic

/-!
# Expressions in normal form

Expressions are built by functions that bring them into a normal form. Concatenations and
alternations have no concatenations and alternations as direct parts, neighbouring texts are one
text, a set of one character is a text, and an alternation of characters is a set. What all branches
of an alternation begin with is taken out of it, so that its stops are preferred before the branches
are told apart.

## Main definitions

* `Regex.ofSet` - one character of a set
* `Regex.concat` - concatenations
* `Regex.anyOf` - alternations
* `Regex.times` - repetitions
-/

namespace RequestBinding.Regex

open RequestBinding.Unicode

/-- One character of a set. -/
def ofSet (s : RangeSet) : Regex :=
  match s.only? with
  | some c => .literal [c]
  | none => .set s

/-! ## Concatenation -/

/-- The parts of a concatenation. -/
def parts : Regex → List Regex
  | .empty => []
  | .seq r s => r.parts ++ [s]
  | r => [r]

/-- The concatenation that has certain parts. -/
def ofParts : List Regex → Regex
  | [] => .empty
  | r :: rest => rest.foldl .seq r

/-- Joins texts that stand next to each other. -/
def joinTexts : List Regex → List Regex
  | [] => []
  | .literal s :: rest =>
    match joinTexts rest with
    | .literal t :: more => .literal (s ++ t) :: more
    | more => .literal s :: more
  | r :: rest => r :: joinTexts rest

/-- The concatenation of a list of expressions. -/
def concat (rs : List Regex) : Regex := ofParts (joinTexts (rs.flatMap parts))

/-! ## Alternation -/

/-- The branches of an alternation. -/
def branches : Regex → List Regex
  | .alt r s => r :: s.branches
  | r => [r]

/-- The alternation that has certain branches. -/
def ofBranches : List Regex → Regex
  | [] => .fail
  | [r] => r
  | r :: rest => .alt r (ofBranches rest)

/-- The character that an expression consists of, if it is one. -/
def only? : Regex → Option Char
  | .literal [c] => some c
  | _ => none

/-- The set that an expression consists of, if it is one. -/
def set? : Regex → Option RangeSet
  | .set s => some s
  | _ => none

/-- The set that branches amount to, if all are characters or all are sets. -/
def merged? (bs : List Regex) : Option RangeSet :=
  match bs.mapM only? with
  | some cs => some (.ofPoints (cs.map Char.toNat))
  | none => (bs.mapM set?).map RangeSet.unions

/-- The parts with which both of two lists begin. Parts with groups are never taken for equal. -/
def commonParts : List Regex → List Regex → List Regex
  | r :: rs, s :: ss => if r == s && !r.hasGroup then r :: commonParts rs ss else []
  | _, _ => []

/-- The parts of a branch that has several, and nothing of others. -/
def severalParts : Regex → List Regex
  | .seq r s => r.parts ++ [s]
  | _ => []

/-- The parts with which all branches begin. -/
def sharedParts : List Regex → List Regex
  | [] => []
  | b :: bs => bs.foldl (fun shared c => commonParts shared c.severalParts) b.severalParts

/-- The number of pieces of an expression. -/
def pieces : Regex → Nat
  | .seq r s | .alt r s => r.pieces + s.pieces + 1
  | .rep _ _ _ r | .group _ r => r.pieces + 1
  | _ => 1

/-- The alternation of branches that are no alternations; shared parts are taken out as often as
`fuel` allows. -/
def factor : Nat → List Regex → Regex
  | 0, bs => ofBranches bs
  | fuel + 1, bs =>
    match bs with
    | [] | [_] => ofBranches bs
    | bs =>
      match merged? bs with
      | some s => ofSet s
      | none =>
        match sharedParts bs with
        | [] => ofBranches bs
        | shared =>
          let ends := bs.map fun b => concat (b.parts.drop shared.length)
          concat (shared ++ [factor fuel (ends.flatMap branches)])

/-- The alternation of a list of expressions. Each time that shared parts are taken out, pieces
become fewer. -/
def anyOf (rs : List Regex) : Regex :=
  let bs := rs.flatMap branches
  factor ((bs.map pieces).foldr (· + ·) 1) bs

/-! ## Repetition -/

/-- A repetition. What takes no characters need not be repeated more than once. -/
def times (greedy : Bool) (low : Nat) (high : Option Nat) (r : Regex) : Regex :=
  let (low, high) := if r.isVacuous then (min low 1, some (min (high.getD 1) 1)) else (low, high)
  match low, high with
  | _, some 0 => .empty
  | 1, some 1 => r
  | low, high => .rep greedy low high r

end RequestBinding.Regex
