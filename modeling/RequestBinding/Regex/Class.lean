import RequestBinding.Regex.Escape

/-!
# Bracketed sets in patterns

A bracketed set is a union of characters, ranges, escapes, named ASCII classes and nested
brackets; unions can be combined by intersection `&&`, difference `--` and symmetric difference
`~~`, from left to right. A closing bracket that comes first is a member, and so are hyphens that
come first or last. In the mode that ignores case, each bracket and each operand is closed under
case variants before it is complemented or combined.

Without the Unicode mode a bracket is a set of bytes: complements are taken among the numbers up to
255, and every bracket must in the end have ASCII members alone.

## Main definitions

* `Union` - a union being read
* `readClass` - reads a bracketed set after its opening bracket
-/

namespace RequestBinding.Regex

open RequestBinding.Unicode

/-- A union being read: its members so far, how many there are, and the deepest nesting among
them. -/
structure Union where
  set : RangeSet
  count : Nat
  nest : Nat
  deriving Repr

namespace Union

/-- The union without members. -/
def empty : Union := ⟨.empty, 0, 0⟩

/-- Adds a member of some nesting. -/
def push (u : Union) (s : RangeSet) (nest : Nat) : Union :=
  ⟨u.set.union s, u.count + 1, max u.nest nest⟩

/-- The nesting of a union: one level more if it has several members. -/
def depth (u : Union) : Nat := if 1 < u.count then u.nest + 1 else u.nest

end Union

/-- The operators between unions. -/
inductive ClassOp where
  | inter
  | diff
  | symmDiff
  deriving Repr, DecidableEq

/-- An operand of a bracketed set: a set and its nesting. -/
structure Operand where
  set : RangeSet
  nest : Nat
  deriving Repr

/-- A bracket or an operator whose right side is being read. -/
inductive ClassFrame where
  /-- A bracket, and the union of the enclosing bracket it will be added to. -/
  | bracket (negated : Bool) (outer : Union)
  | op (kind : ClassOp) (left : Operand)
  deriving Repr

/-- Combines two operands. -/
def ClassOp.apply (m : Mode) (kind : ClassOp) (l r : Operand) : Operand :=
  let s := foldSet m l.set
  let t := foldSet m r.set
  let set :=
    match kind with
    | .inter => s.inter t
    | .diff => s.diff t
    | .symmDiff => s.symmDiff t
  ⟨set, max l.nest r.nest + 1⟩

/-- Applies the operator on top of a list of frames, if there is one. -/
def popOp (m : Mode) (frames : List ClassFrame) (right : Operand) : Operand × List ClassFrame :=
  match frames with
  | .op kind left :: rest => (kind.apply m left right, rest)
  | _ => (right, frames)

/-- The ASCII classes with a name. -/
def asciiClass (name : String) : Option RangeSet :=
  (match name with
    | "alnum" => some "30-39 41-5A 61-7A"
    | "alpha" => some "41-5A 61-7A"
    | "ascii" => some "0-7F"
    | "blank" => some "9 20"
    | "cntrl" => some "0-1F 7F"
    | "digit" => some "30-39"
    | "graph" => some "21-7E"
    | "lower" => some "61-7A"
    | "print" => some "20-7E"
    | "punct" => some "21-2F 3A-40 5B-60 7B-7E"
    | "space" => some "9-D 20"
    | "upper" => some "41-5A"
    | "word" => some "30-39 41-5A 5F 61-7A"
    | "xdigit" => some "30-39 41-46 61-66"
    | _ => none).map RangeSet.ofText

/-- Folds a set that is closed, and complements it if it is negated. Without the Unicode mode the
result must have ASCII members alone. -/
def closeSet (m : Mode) (negated : Bool) (s : RangeSet) : Option RangeSet :=
  let s := foldSet m s
  let s := if negated then s.compl else s
  if m.unicode then some s
  else
    let bytes := s.inter (.range 0 0xFF)
    if bytes.isAscii then some bytes else none

/-- Reads the rest of a named ASCII class after its opening bracket: whether it is negated, and the
set; none if it is something else. -/
def readAsciiClass : List Char → Option (Bool × RangeSet × List Char)
  | ':' :: rest =>
    let (negated, rest) :=
      match rest with
      | '^' :: more => (true, more)
      | more => (false, more)
    let name := rest.takeWhile (· != ':')
    match rest.dropWhile (· != ':') with
    | ':' :: ']' :: rest => (asciiClass (String.ofList name)).map fun s => (negated, s, rest)
    | _ => none
  | _ => none

/-- What follows the blanks and at most one number sign, as far as verbose mode passes them over to
see what a hyphen stands before. -/
def peekBlank : Bool → List Char → List Char
  | _, [] => []
  | sign, c :: rest =>
    if isBlank c then peekBlank sign rest
    else if !sign && c == '#' then peekBlank true rest
    else c :: rest

/-- The next character that counts after a hyphen. -/
def peekSpace (m : Mode) (rest : List Char) : Option Char :=
  if m.verbose then (peekBlank false rest).head? else rest.head?

/-- One member of a set, before it is known whether it starts a range. -/
def readMember (m : Mode) : List Char → Option (Primitive × List Char)
  | [] => none
  | '\\' :: rest => readEscape m rest
  | c :: rest => some (.char c false, rest)

/-- Whether a character can be a member of a set; without the Unicode mode only ASCII characters and
bytes can. -/
def isClassChar (m : Mode) (c : Char) (byte : Bool) : Bool := m.unicode || c.toNat < 128 || byte

/-- Reads a member or a range. -/
def readRange (m : Mode) (cs : List Char) : Option (RangeSet × List Char) :=
  match readMember m cs with
  | none => none
  | some (p, rest) =>
    let alone : Option (RangeSet × List Char) → Option (RangeSet × List Char) := fun range =>
      match p with
      | .look _ => none
      | .set s => match range with
        | none => some (s, skipSpace m rest)
        | some _ => none
      | .char c byte =>
        if !isClassChar m c byte then none
        else
          match range with
          | none => some (RangeSet.single c, skipSpace m rest)
          | some r => some r
    match skipSpace m rest with
    | [] => none
    | '-' :: after =>
      if peekSpace m after == some ']' || peekSpace m after == some '-' then alone none
      else
        match readMember m (skipSpace m after) with
        | some (.char d byte, rest) =>
          match p with
          | .char c _ =>
            if c ≤ d && isClassChar m d byte then alone (some (.range c.toNat d.toNat, rest))
            else none
          | _ => none
        | _ => none
    | _ => alone none

/-- Takes up to `fuel` hyphens that come first in a bracket. -/
def leadingHyphens (m : Mode) : Nat → Union → List Char → Union × List Char
  | fuel + 1, u, '-' :: rest => leadingHyphens m fuel (u.push (.single '-') 0) (skipSpace m rest)
  | _, u, cs => (u, cs)

/-- Reads the start of a bracket after its opening: whether it is negated, and the members that
are only possible there. -/
def openClass (m : Mode) (cs : List Char) : Option (Bool × Union × List Char) :=
  let (negated, cs) :=
    match skipSpace m cs with
    | '^' :: rest => (true, skipSpace m rest)
    | cs => (false, cs)
  let (u, cs) := leadingHyphens m cs.length .empty cs
  match cs with
  | [] => none
  | ']' :: rest =>
    if u.count == 0 then
      match skipSpace m rest with
      | [] => none
      | rest => some (negated, u.push (.single ']') 0, rest)
    else some (negated, u, ']' :: rest)
  | cs => some (negated, u, cs)

/-- Closes a bracket. -/
def closeClass (m : Mode) (negated : Bool) (o : Operand) : Option Operand :=
  (closeSet m negated o.set).map fun s => ⟨s, o.nest + 1⟩

/-- Reads the inside of brackets: at most `fuel` members, brackets and operators. -/
def classBody (m : Mode) : Nat → List ClassFrame → Union → List Char →
    Option (Operand × List Char)
  | 0, _, _, _ => none
  | fuel + 1, frames, u, cs =>
    let operator := fun (kind : ClassOp) (rest : List Char) =>
      let (left, frames) := popOp m frames ⟨u.set, u.depth⟩
      classBody m fuel (.op kind left :: frames) .empty rest
    match skipSpace m cs with
    | [] => none
    | '[' :: rest =>
      match readAsciiClass rest with
      | some (negated, s, rest) =>
        match closeSet m negated s with
        | some s => classBody m fuel frames (u.push s 0) rest
        | none => none
      | none =>
        match openClass m rest with
        | some (negated, inner, rest) => classBody m fuel (.bracket negated u :: frames) inner rest
        | none => none
    | ']' :: rest =>
      match popOp m frames ⟨u.set, u.depth⟩ with
      | (o, .bracket negated outer :: frames) =>
        match closeClass m negated o, frames with
        | none, _ => none
        | some closed, [] => some (closed, rest)
        | some closed, frames => classBody m fuel frames (outer.push closed.set closed.nest) rest
      | _ => none
    | '&' :: '&' :: rest => operator .inter rest
    | '-' :: '-' :: rest => operator .diff rest
    | '~' :: '~' :: rest => operator .symmDiff rest
    | cs =>
      match readRange m cs with
      | some (s, rest) => classBody m fuel frames (u.push s 0) rest
      | none => none

/-- Reads a bracketed set after its opening bracket. Every member, bracket and operator takes at least
one character. -/
def readClass (m : Mode) (cs : List Char) : Option (Operand × List Char) :=
  match openClass m cs with
  | none => none
  | some (negated, u, rest) => classBody m rest.length [.bracket negated .empty] u rest

end RequestBinding.Regex
