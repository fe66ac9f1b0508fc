import RequestBinding.Regex.Class
import RequestBinding.Regex.Normal

/-!
# Reading patterns

A pattern is read from left to right with a stack of open groups. Each step takes at least one
character and changes only the innermost group, so that a pattern that is complete in itself can
be read in the same way inside a group of another pattern.

Groups are `(…)`, `(?:…)`, `(?P<name>…)` and `(?<name>…)`; flags are switched by `(?flags)` up to
the end of the group, or for one group by `(?flags:…)`. There is no look-around and there are no
references to groups. Names of groups must differ.

## Main definitions

* `Built` - a finished expression with its nesting
* `State` - what has been read
* `Regex.read?` - the expression of a pattern, if the pattern is well-formed and within the
  limit of nesting
-/

namespace RequestBinding.Regex

open RequestBinding.Unicode

/-- A finished expression and the number of compound pieces nested in its pattern. -/
structure Built where
  regex : Regex
  nest : Nat
  deriving Repr, DecidableEq

/-- An item of a concatenation: an expression, or flags that take no part in matching. -/
inductive Item where
  | part (b : Built)
  | flags
  deriving Repr, DecidableEq

/-- A group that has been opened: whether it captures and its name, the mode to return to, and what
its surroundings held when it was opened. -/
structure Group where
  captures : Bool
  name : Option String
  mode : Mode
  items : List Item
  alternatives : List Built
  deriving Repr

/-- What has been read: the mode in force, the items of the current concatenation and the finished
alternatives of the innermost group, both latest first, the open groups, innermost first, and the
names of groups. -/
structure State where
  mode : Mode
  items : List Item
  alternatives : List Built
  outer : List Group
  names : List String
  deriving Repr

namespace State

/-- Nothing read. -/
def initial : State := ⟨.initial, [], [], [], []⟩

/-- Adds an expression to the current concatenation. -/
def push (st : State) (r : Regex) (nest : Nat) : State :=
  { st with items := .part ⟨r, nest⟩ :: st.items }

end State

/-! ## Finishing concatenations and alternations -/

/-- The expressions of items given latest first, in order. -/
def itemParts (items : List Item) : List Built :=
  items.reverse.filterMap fun i =>
    match i with
    | .part b => some b
    | .flags => none

/-- The greatest nesting of a list of expressions. -/
def maxNest (bs : List Built) : Nat := bs.foldl (fun n b => max n b.nest) 0

/-- The concatenation of items given latest first. -/
def concatenate (items : List Item) : Built :=
  let parts := itemParts items
  ⟨concat (parts.map Built.regex),
    if 1 < items.length then maxNest parts + 1 else maxNest parts⟩

/-- The alternation of finished alternatives, given latest first, and a last one. -/
def alternate (alternatives : List Built) (last : Built) : Built :=
  match alternatives with
  | [] => last
  | _ =>
    let all := alternatives.reverse ++ [last]
    ⟨anyOf (all.map Built.regex), maxNest all + 1⟩

/-! ## Groups -/

/-- The flags read so far in a flag list: which switches were named, each with the value it gets,
and whether the minus sign has been seen. -/
structure FlagList where
  mode : Mode
  named : List Char
  negated : Bool
  /-- The minus sign is the last item. -/
  dangling : Bool
  deriving Repr

/-- Switches one flag. -/
def Mode.set (m : Mode) (flag : Char) (value : Bool) : Option Mode :=
  match flag with
  | 'i' => some { m with ignoreCase := value }
  | 'm' => some { m with multiLine := value }
  | 's' => some { m with dotAll := value }
  | 'U' => some { m with swapGreed := value }
  | 'u' => some { m with unicode := value }
  | 'R' => some { m with crlf := value }
  | 'x' => some { m with verbose := value }
  | _ => none

/-- Reads a list of flags up to a colon or a closing parenthesis: the list, whether a group
follows, and the characters after that. -/
def readFlags (f : FlagList) : List Char → Option (FlagList × Bool × List Char)
  | [] => none
  | c :: rest =>
    if c == ':' || c == ')' then
      if f.dangling then none else some (f, c == ':', rest)
    else if c == '-' then
      if f.negated then none else readFlags { f with negated := true, dangling := true } rest
    else if f.named.contains c then none
    else
      match f.mode.set c (!f.negated) with
      | some m => readFlags ⟨m, c :: f.named, f.negated, false⟩ rest
      | none => none

/-- The characters that may stand in a name: it begins with a letter or an underscore. -/
def isNameChar (first : Bool) (c : Char) : Bool :=
  if first then c == '_' || isAlphabetic c
  else c == '_' || c == '.' || c == '[' || c == ']' || isAlphanumeric c

/-- Reads a name up to the closing angle bracket. -/
def readName (first : Bool) : List Char → Option (List Char × List Char)
  | [] => none
  | c :: rest =>
    if c == '>' then some ([], rest)
    else if isNameChar first c then
      (readName false rest).map fun (name, rest) => (c :: name, rest)
    else none

/-- Opens a group: the current concatenation and alternatives are kept for later. -/
def State.enter (st : State) (captures : Bool) (name : Option String) (mode : Mode) : State :=
  { mode := mode, items := [], alternatives := [],
    outer := ⟨captures, name, st.mode, st.items, st.alternatives⟩ :: st.outer, names := st.names }

/-- Opens a named group, unless its name is taken. -/
def State.enterNamed (st : State) (cs : List Char) : Option (State × List Char) :=
  match readName true cs with
  | none => none
  | some ([], _) => none
  | some (name, rest) =>
    let name := String.ofList name
    if st.names.contains name then none
    else some ({ st with names := name :: st.names }.enter true (some name) st.mode, rest)

/-- Reads what follows an opening parenthesis. -/
def State.openGroup (st : State) (cs : List Char) : Option (State × List Char) :=
  match skipSpace st.mode cs with
  | '?' :: '=' :: _ => none
  | '?' :: '!' :: _ => none
  | '?' :: '<' :: '=' :: _ => none
  | '?' :: '<' :: '!' :: _ => none
  | '?' :: 'P' :: '<' :: rest => st.enterNamed rest
  | '?' :: '<' :: rest => st.enterNamed rest
  | '?' :: rest =>
    match readFlags ⟨st.mode, [], false, false⟩ rest with
    | none => none
    | some (f, true, rest) => some (st.enter false none f.mode, rest)
    | some (f, false, rest) =>
      if f.named.isEmpty && !f.negated then none
      else some ({ st with mode := f.mode, items := .flags :: st.items }, rest)
  | rest => some (st.enter true none st.mode, rest)

/-- Closes the innermost group. -/
def State.closeGroup (st : State) : Option State :=
  match st.outer with
  | [] => none
  | g :: outer =>
    let b := alternate st.alternatives (concatenate st.items)
    let r := if g.captures then Regex.group g.name b.regex else b.regex
    some ⟨g.mode, .part ⟨r, b.nest + 1⟩ :: g.items, g.alternatives, outer, st.names⟩

/-- Ends an alternative. -/
def State.bar (st : State) : State :=
  { st with items := [], alternatives := concatenate st.items :: st.alternatives }

/-! ## Repetitions -/

/-- Repeats the last item. A question mark that follows makes the repetition reluctant. -/
def State.repeatLast (st : State) (low : Nat) (high : Option Nat) (cs : List Char) :
    Option (State × List Char) :=
  match st.items with
  | .part b :: items =>
    let (reluctant, rest) :=
      match cs with
      | '?' :: rest => (true, rest)
      | rest => (false, rest)
    let r := times (reluctant == st.mode.swapGreed) low high b.regex
    some ({ st with items := .part ⟨r, b.nest + 1⟩ :: items }, rest)
  | _ => none

/-- Reads a decimal number with blanks around it; the number has to fit 32 bits. -/
def readDecimal (m : Mode) (cs : List Char) : Option (Option Nat × List Char) :=
  let rec digits (value : Option Nat) (cs : List Char) : Option Nat × List Char :=
    match cs with
    | [] => (value, [])
    | c :: rest =>
      if c.isDigit then
        digits (some (value.getD 0 * 10 + (c.toNat - '0'.toNat))) (skipSpace m rest)
      else (value, c :: rest)
    termination_by cs.length
    decreasing_by
      have := skipSpace_length m rest
      simp; omega
  let (value, rest) := digits none (cs.dropWhile isBlank)
  let rest := skipSpace m (rest.dropWhile isBlank)
  match value with
  | some n => if n < Nat.pow 2 32 then some (some n, rest) else none
  | none => some (none, rest)

/-- The bounds of a counted repetition after its opening brace, and what follows the closing
one. -/
def readBounds (m : Mode) (cs : List Char) : Option (Nat × Option Nat × List Char) :=
  match readDecimal m (skipSpace m cs) with
  | some (some low, ',' :: rest) =>
    match skipSpace m rest with
    | '}' :: rest => some (low, none, rest)
    | rest =>
      match readDecimal m rest with
      | some (some high, '}' :: rest) => if low ≤ high then some (low, some high, rest) else none
      | _ => none
  | some (some low, '}' :: rest) => some (low, some low, rest)
  | _ => none

/-! ## Steps -/

/-- A character as an expression. Without the Unicode mode only ASCII letters have variants. -/
def character (m : Mode) (c : Char) : Regex :=
  if !m.ignoreCase then .literal [c]
  else if m.unicode then ofSet (.ofPoints (caseVariants c.toNat))
  else ofSet (RangeSet.single c).foldAscii

/-- The set of a dot. -/
def dotSet (m : Mode) : RangeSet :=
  if m.dotAll then .all
  else if m.crlf then (RangeSet.ofText "A D").compl
  else (RangeSet.ofText "A").compl

/-- Adds a primitive piece. -/
def State.primitive (st : State) : Primitive → Option State
  | .char c byte =>
    if byte && !st.mode.unicode then none else some (st.push (character st.mode c) 0)
  | .set s => some (st.push (ofSet s) 0)
  | .look l => some (st.push (.look l) 0)

/-- Reads the piece of a pattern that begins with `c`; in verbose mode, `c` is no blank. -/
def State.step (st : State) (c : Char) (rest : List Char) : Option (State × List Char) :=
  match c with
  | '(' => st.openGroup rest
  | ')' => st.closeGroup.map (·, rest)
  | '|' => some (st.bar, rest)
  | '[' => (readClass st.mode rest).map fun (o, rest) => (st.push (ofSet o.set) o.nest, rest)
  | '?' => st.repeatLast 0 (some 1) rest
  | '*' => st.repeatLast 0 none rest
  | '+' => st.repeatLast 1 none rest
  | '{' =>
    match readBounds st.mode rest with
    | some (low, high, rest) => st.repeatLast low high (skipSpace st.mode rest)
    | none => none
  | '\\' =>
    match readEscape st.mode rest with
    | some (p, rest) => (st.primitive p).map (·, rest)
    | none => none
  | '.' => if st.mode.unicode then some (st.push (ofSet (dotSet st.mode)) 0, rest) else none
  | '^' =>
    let l := if st.mode.multiLine then Look.lineStart st.mode.crlf else .textStart
    some (st.push (.look l) 0, rest)
  | '$' =>
    let l := if st.mode.multiLine then Look.lineEnd st.mode.crlf else .textEnd
    some (st.push (.look l) 0, rest)
  | c => some (st.push (character st.mode c) 0, rest)

/-- Reads a pattern to its end in at most `fuel` steps. -/
def State.run : Nat → State → List Char → Option State
  | fuel, st, cs =>
    match skipSpace st.mode cs, fuel with
    | [], _ => some st
    | _, 0 => none
    | c :: rest, fuel + 1 =>
      match st.step c rest with
      | some (st, rest) => st.run fuel rest
      | none => none

/-- The expression of a pattern that has been read; none if a group is open. -/
def State.finish (st : State) : Option Built :=
  match st.outer with
  | [] => some (alternate st.alternatives (concatenate st.items))
  | _ => none

/-- The greatest nesting of compound pieces. -/
def maxNesting : Nat := 250

/-- The expression of a pattern, if the pattern is well-formed and not too deep. Every step takes at
least one character. -/
def read? (pattern : List Char) : Option Regex :=
  match (State.initial.run pattern.length pattern).bind State.finish with
  | some b => if b.nest ≤ maxNesting then some b.regex else none
  | none => none

/-- A text as a pattern that matches it alone: a backslash before each character with a
meaning. -/
def escape (cs : List Char) : List Char := cs.flatMap fun c => if isMeta c then ['\\', c] else [c]

end RequestBinding.Regex
