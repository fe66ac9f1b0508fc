import RequestBinding.Regex.Basic
import RequestBinding.Unicode.Property

/-!
# Places where matches stop

An expression is matched at a place of a text. A match stops at a later place, with the texts that
its groups captured on the way.

## Main definitions

* `Cursor` - a place in a text
* `Look.holds` - whether a condition holds at a place
* `Stop` - a place where a match stops, with what was captured on the way
* `Found` - the first stop at each place, in the order in which they were found
-/

namespace RequestBinding.Regex

/-- A place in a text: the characters before it, nearest first, those after it, and the number of
the latter. -/
structure Cursor where
  before : List Char
  after : List Char
  left : Nat
  left_eq : left = after.length
  deriving Repr

namespace Cursor

/-- The place before a text. -/
def start (cs : List Char) : Cursor := ⟨[], cs, cs.length, rfl⟩

/-- The character after a place, and the place behind it. -/
def next? (c : Cursor) : Option (Char × Cursor) :=
  match c with
  | ⟨_, [], _, _⟩ => none
  | ⟨before, x :: after, left, h⟩ =>
    some (x, ⟨x :: before, after, left - 1, by simp at h; omega⟩)

theorem left_lt_of_next? {c d : Cursor} {x : Char} (h : c.next? = some (x, d)) :
    d.left < c.left := by
  obtain ⟨before, after, left, rfl⟩ := c
  cases after with
  | nil => cases h
  | cons y after =>
    cases h
    exact Nat.lt_succ_self _

/-- The place behind a text that comes next. -/
def skip? (c : Cursor) : List Char → Option Cursor
  | [] => some c
  | x :: text =>
    match c.next? with
    | some (y, d) => if x == y then d.skip? text else none
    | none => none

/-- The characters from one place to a later one. -/
def textTo (c d : Cursor) : List Char := c.after.take (c.left - d.left)

end Cursor

/-! ## Conditions -/

/-- Whether a character belongs to words. -/
def wordChar (unicode : Bool) (c : Char) : Bool :=
  c.isAlphanum || c == '_' || (unicode && 128 ≤ c.toNat && Unicode.wordSet.mem c.toNat)

/-- Whether the character before a place belongs to a word. -/
def wordBefore (unicode : Bool) (c : Cursor) : Bool := c.before.head?.any (wordChar unicode)

/-- Whether the character after a place belongs to a word. -/
def wordAfter (unicode : Bool) (c : Cursor) : Bool := c.after.head?.any (wordChar unicode)

/-- Whether a condition holds at a place. -/
def Look.holds (l : Look) (c : Cursor) : Bool :=
  match l with
  | .textStart => c.before.isEmpty
  | .textEnd => c.after.isEmpty
  | .lineStart crlf =>
    match c.before, c.after with
    | [], _ => true
    | b :: _, a => b == '\n' || (crlf && b == '\r' && a.head? != some '\n')
  | .lineEnd crlf =>
    match c.after, c.before with
    | [], _ => true
    | a :: _, b =>
      if crlf then a == '\r' || (a == '\n' && b.head? != some '\r') else a == '\n'
  | .wordEdge u => wordBefore u c != wordAfter u c
  | .noWordEdge u => wordBefore u c == wordAfter u c
  | .wordStart u => !wordBefore u c && wordAfter u c
  | .wordEnd u => wordBefore u c && !wordAfter u c
  | .wordStartHalf u => !wordBefore u c
  | .wordEndHalf u => !wordAfter u c

/-! ## Stops -/

/-- What a named group matched: the text between two places. -/
structure Capture where
  name : String
  first : Cursor
  last : Cursor
  deriving Repr

/-- The text of a capture. -/
def Capture.text (c : Capture) : List Char := c.first.textTo c.last

/-- The capture of a group between two places; groups without a name have none. -/
def captured (name : Option String) (first last : Cursor) : List Capture :=
  match name with
  | some n => [⟨n, first, last⟩]
  | none => []

/-- A place where a match can stop, with the captures on the way there, in the order in which
their groups ended. -/
structure Stop where
  captures : List Capture
  cursor : Cursor
  deriving Repr

/-- A stop with earlier captures put before its own. -/
def Stop.after (earlier : List Capture) (s : Stop) : Stop := ⟨earlier ++ s.captures, s.cursor⟩

/-- What a group matched last, if it took part in a match. -/
def Stop.get? (s : Stop) (name : String) : Option (List Char) :=
  (s.captures.reverse.find? (·.name == name)).map Capture.text

/-- Stops found so far, the latest first, and the places they take: bit `n` is set for the place
with `n` characters left. -/
structure Found where
  stops : List Stop
  taken : Nat

namespace Found

/-- Nothing found. -/
def none : Found := ⟨[], 0⟩

/-- Whether there is a stop at a place. -/
def has (f : Found) (c : Cursor) : Bool := f.taken.testBit c.left

/-- Adds a stop unless its place is taken. -/
def add (f : Found) (s : Stop) : Found :=
  if f.has s.cursor then f else ⟨s :: f.stops, f.taken ||| 1 <<< s.cursor.left⟩

/-- The stops in the order in which they were found. -/
def toList (f : Found) : List Stop := f.stops.reverse

end Found

end RequestBinding.Regex
