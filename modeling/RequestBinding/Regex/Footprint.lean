import RequestBinding.Regex.Basic
import RequestBinding.Text.ByteRanges
import Std.Data.HashMap

/-!
# The size of expressions

An expression is accepted if the two automata that read the UTF-8 form of a text, one forwards and
one backwards, fit into ten mebibytes each. A state takes 32 bytes, and each of several
continuations 4 or 8 bytes more. Repetitions are written out, so that their bodies count as often as
they can be gone through.

The states of a set are shared where the rest of the forms is the same. Which of them are shared
depends on a table of limited size: a state is found again unless another one has taken its place
in the table, so that the number of a state matters too.

## Main definitions

* `Usage` - states and bytes
* `Usage.addForward`, `Usage.addBackward` - adds the automaton of a set
* `Usage.addWords` - adds the automaton of an alternation of texts
* `Layout` - what an automaton is built from
* `Regex.fits` - whether an expression is small enough
-/

namespace RequestBinding.Regex

open RequestBinding.Unicode

/-- The greatest number of bytes that an automaton may take. -/
def maxSize : Nat := 10485760

/-- The number of states of an automaton and of the bytes that it takes. -/
structure Usage where
  states : Nat
  bytes : Nat
  deriving Repr, DecidableEq

namespace Usage

/-- Nothing used. -/
def zero : Usage := ⟨0, 0⟩

/-- Whether the limit has been passed. -/
def isOver (u : Usage) : Bool := maxSize < u.bytes

/-- Adds a state that takes some bytes more than others. -/
def state (u : Usage) (extra : Nat) : Usage := ⟨u.states + 1, u.bytes + 32 + extra⟩

/-- Adds a number of plain states. -/
def chain (u : Usage) (n : Nat) : Usage := ⟨u.states + n, u.bytes + 32 * n⟩

/-- Adds something `n` times, or until the limit has been passed. -/
def times (f : Usage → Usage) : Nat → Usage → Usage
  | 0, u => u
  | n + 1, u => if u.isOver then u else times f n (f u)

end Usage

/-! ## Sets, forwards -/

/-- A range of bytes and the number of the state that it leads to. -/
structure Arc where
  first : Nat
  last : Nat
  next : Nat
  deriving Repr, DecidableEq

/-- One step of a multiplicative hash over words of 64 bits. -/
def mix (h : UInt64) (n : Nat) : UInt64 := (h ^^^ UInt64.ofNat n) * 1099511628211

/-- The first value of the hash. -/
def mixStart : UInt64 := 14695981039346656037

/-- Goes on with a hash over arcs. -/
def mixArcs (h : UInt64) : List Arc → UInt64
  | [] => h
  | a :: rest => mixArcs (mix (mix (mix h a.first) a.last) a.next) rest

/-- The place of a state in a table of states, by its arcs. -/
def Arc.slot (arcs : List Arc) : Nat := (mixArcs mixStart arcs % 10000).toNat

/-- A state under construction: its finished arcs, the latest first, and the range of the arc whose
next state is under construction itself. -/
structure OpenState where
  arcs : List Arc
  last : Option (Nat × Nat)
  deriving Repr

/-- The arcs of a state when the state under construction after it has got a number. -/
def OpenState.close (s : OpenState) (next : Nat) : List Arc :=
  match s.last with
  | some (a, b) => ⟨a, b, next⟩ :: s.arcs
  | none => s.arcs

/-- An automaton of a set under construction: what is used, and the finished states by their place
in the table. -/
structure Shared where
  usage : Usage
  table : Std.HashMap Nat (List Arc × Nat)

namespace Shared

/-- The number of a state with certain arcs, which is added unless the table has it. -/
def intern (m : Shared) (arcs : List Arc) : Nat × Shared :=
  let slot := Arc.slot arcs
  match m.table[slot]?.filter (·.1 = arcs) with
  | some (_, number) => (number, m)
  | none =>
    let number := m.usage.states
    (number, ⟨m.usage.state (8 * arcs.length), m.table.insert slot (arcs, number)⟩)

/-- Finishes states under construction, the first of which leads to the second, and so on; the last
one leads to `target`. -/
def finish (m : Shared) (target : Nat) : List OpenState → Nat × Shared
  | [] => (target, m)
  | s :: rest =>
    let (next, m) := m.finish target rest
    m.intern (s.close next).reverse

/-- Adds a sequence of ranges. The states under construction that it shares with the sequence before
it are kept, and the others are finished. -/
def add (m : Shared) (target : Nat) : List OpenState → List (Nat × Nat) → List OpenState × Shared
  | s :: rest, r :: rs =>
    if s.last = some r then
      let (rest, m) := m.add target rest rs
      (s :: rest, m)
    else
      let (next, m) := m.finish target rest
      (⟨s.close next, some r⟩ :: rs.map fun r => ⟨[], some r⟩, m)
  | ss, _ => (ss, m)

end Shared

/-- Adds the automaton of a set that reads forwards, given the sequences of byte ranges. -/
def Usage.addForward (u : Usage) (sequences : List (List (Nat × Nat))) : Usage :=
  let target := u.states
  let m : Shared := ⟨u.state 0, .emptyWithCapacity sequences.length⟩
  let add := fun (opened, m) rs => Shared.add m target opened rs
  let (opened, m) := sequences.foldl add ([⟨[], none⟩], m)
  (m.finish target opened).2.usage

/-! ## Sets, backwards -/

/-- What is used, and the finished arcs with their numbers by their place in the table. -/
abbrev SharedArcs := Usage × Std.HashMap Nat (Arc × Nat)

/-- The number of the state that reads a range before the state `next`, which is added unless the
table has it. -/
def internArc (next : Nat) (m : SharedArcs) (r : Nat × Nat) : Nat × SharedArcs :=
  let arc : Arc := ⟨r.1, r.2, next⟩
  let slot := (mix (mix (mix mixStart next) r.1) r.2 % 1000).toNat
  match m.2[slot]?.filter (·.1 = arc) with
  | some (_, number) => (number, m)
  | none =>
    let number := m.1.states
    (number, (m.1.state 0, m.2.insert slot (arc, number)))

/-- Adds the automaton of a set that reads backwards. -/
def Usage.addBackward (u : Usage) (sequences : List (List (Nat × Nat))) : Usage :=
  let ending := u.states + 1
  let u := (u.state (4 * sequences.length)).state 0
  let add := fun (m : SharedArcs) (rs : List (Nat × Nat)) =>
    (rs.foldl (fun (next, m) r => internArc next m r) (ending, m)).2
  (sequences.foldl add (u, .emptyWithCapacity sequences.length)).1

/-! ## Texts -/

/-- The first bytes of words with what follows them, in order, as long as no word ends. -/
abbrev Chunk := List (UInt8 × List UInt8)

/-- Divides words in order at those that are empty: a later word may not go before an earlier one
that ends here. `done` are the chunks before the current one, latest first. -/
def chunks (done : List Chunk) (current : Chunk) : List (List UInt8) → List Chunk
  | [] => (current.reverse :: done).reverse
  | [] :: words =>
    if current.isEmpty && done.all List.isEmpty && !done.isEmpty then chunks done current words
    else chunks (current.reverse :: done) [] words
  | (b :: rest) :: words => chunks done ((b, rest) :: current) words

/-- The different first bytes of a chunk. -/
def Chunk.heads (c : Chunk) : List UInt8 := (c.map Prod.fst).eraseDups

/-- What follows a first byte in a chunk. -/
def Chunk.tails (c : Chunk) (b : UInt8) : List (List UInt8) :=
  c.filterMap fun (a, rest) => if a == b then some rest else none

/-- Adds the states that tell words of at most `n` bytes apart, except for the one behind them. -/
def Usage.addTree : Nat → List (List UInt8) → Usage → Usage
  | 0, _, u => u
  | n + 1, words, u =>
    let all := chunks [] [] words
    let filled := all.filter fun c => !c.isEmpty
    let u := filled.foldl (fun u c =>
      c.heads.foldl (fun u b =>
        let tails := c.tails b
        if tails.all List.isEmpty then u else addTree n tails u) u) u
    let u := filled.foldl (fun u c =>
      u.state (if c.heads.length == 1 then 0 else 8 * c.heads.length)) u
    u.state (4 * (filled.length + all.length - 1))

/-- Adds the automaton of an alternation of words. -/
def Usage.addWords (u : Usage) (words : List (List UInt8)) : Usage :=
  Usage.addTree ((words.map List.length).foldl max 0 + 1) words (u.state 0)

/-! ## Layouts -/

/-- What the automaton of an expression is built from. -/
inductive Layout where
  /-- A number of states that follow each other. -/
  | chain (n : Nat)
  /-- A set of ASCII characters with some number of ranges. -/
  | narrow (ranges : Nat)
  /-- A set whose forms are told by sequences of byte ranges. -/
  | wide (sequences : List (List (Nat × Nat)))
  /-- An alternation of words. -/
  | words (ws : List (List UInt8))
  | seq (r s : Layout)
  | alt (r s : Layout)
  | rep (takesSome : Bool) (low : Nat) (high : Option Nat) (r : Layout)
  | group (r : Layout)
  deriving Repr

namespace Layout

/-- The words of an alternation that has texts alone as branches. -/
def words? : Regex → Option (List (List UInt8))
  | .literal text => some [Utf8.encodeChars text]
  | .alt (.literal text) s => (words? s).map (Utf8.encodeChars text :: ·)
  | _ => none

/-- The layout of an expression. `later` is set for the branches of an alternation after the first,
which are no alternation of their own. -/
def ofRegex (later : Bool) : Regex → Layout
  | .empty | .look _ => .chain 1
  | .literal text => .chain (Utf8.encodeChars text).length
  | .set s => if s.isAscii then .narrow s.ranges.length else .wide (Utf8.byteRanges s)
  | .seq r s => .seq (ofRegex false r) (ofRegex false s)
  | .alt r s =>
    match if later then none else words? (.alt r s) with
    | some ws => .words ws
    | none => .alt (ofRegex false r) (ofRegex true s)
  | .rep _ low high r => .rep r.takesSome low high (ofRegex false r)
  | .group _ r => .group (ofRegex false r)

/-- Adds the automaton of a repetition, given what its body adds. -/
def addRepetition (body : Usage → Usage) (takesSome : Bool) (low : Nat) (high : Option Nat)
    (u : Usage) : Usage :=
  let choice := fun (u : Usage) => u.state 8
  match high with
  | none =>
    if 0 < low then choice (Usage.times body low u)
    else if takesSome then body (choice u)
    else (choice (choice (body u))).state 0
  | some n =>
    if n == 1 && low == 0 then (body (choice u)).state 0
    else
      let u := if low == 0 then u.state 0 else Usage.times body low u
      if low == n then u else Usage.times (fun u => body (choice u)) (n - low) (u.state 0)

/-- Notes that the `n`-th branch of an alternation has been added: the second one adds the states
where the branches part and meet. -/
def join (u : Usage) (n : Nat) : Usage :=
  if n < 2 then u
  else if n == 2 then (u.state 8).state 0
  else { u with bytes := u.bytes + 4 }

/-- Adds the automaton of an expression. If it is the rest of an alternation, `n` branches were
added before. -/
def add (backward : Bool) : Layout → Nat → Usage → Usage
  | .alt r s, n, u => add backward s (n + 1) (join (add backward r 0 u) (n + 1))
  | .chain k, n, u => join (u.chain k) (n + 1)
  | .narrow k, n, u => join ((u.state 0).state (8 * k)) (n + 1)
  | .wide sequences, n, u =>
    join (if backward then u.addBackward sequences else u.addForward sequences) (n + 1)
  | .words ws, n, u => join (u.addWords (if backward then ws.map List.reverse else ws)) (n + 1)
  | .seq r s, n, u =>
    let u := if backward then add backward r 0 (add backward s 0 u)
      else add backward s 0 (add backward r 0 u)
    join u (n + 1)
  | .rep takesSome low high r, n, u =>
    join (addRepetition (add backward r 0) takesSome low high u) (n + 1)
  | .group r, n, u =>
    let u := if backward then add backward r 0 u
      else (add backward r 0 (u.state 0)).state 0
    join u (n + 1)

end Layout

/-! ## Limits -/

/-- What the automaton that reads forwards takes. Unless matches start at the start of the text
alone, it skips what is before them. -/
def forwardUsage (r : Regex) (l : Layout) : Usage :=
  let skip := if r.startsAtStart then Usage.zero.state 0 else ((Usage.zero.state 8).state 0).state 8
  (Layout.add false (.group l) 0 skip).state 0

/-- What the automaton that reads backwards takes. -/
def backwardUsage (r : Regex) (l : Layout) : Usage :=
  let skip := if r.endsAtEnd then Usage.zero.state 0 else ((Usage.zero.state 8).state 0).state 8
  (Layout.add true l 0 skip).state 0

/-- A number of bytes that neither automaton exceeds: every character of a text needs at most four
states and every range of a set at most eighty-four, each with its share of the states where ways
part. -/
def sizeBound : Regex → Nat
  | .empty | .look _ => 100
  | .literal text => 100 + 400 * text.length
  | .set s => 200 + 4000 * s.ranges.length
  | .seq r s => r.sizeBound + s.sizeBound
  | .alt r s => r.sizeBound + s.sizeBound + 100
  | .rep _ low high r => (max low (high.getD 0) + 1) * (r.sizeBound + 100) + 200
  | .group _ r => r.sizeBound + 100

/-- Whether an expression is small enough. The automata are only looked at if the bound leaves it
open. -/
def fits (r : Regex) : Bool :=
  r.sizeBound + 300 ≤ maxSize ||
    (let l := Layout.ofRegex false r
     !(forwardUsage r l).isOver && !(backwardUsage r l).isOver)

end RequestBinding.Regex
