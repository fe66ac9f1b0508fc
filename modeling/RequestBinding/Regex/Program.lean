import RequestBinding.Regex.Place

/-!
# Programs

A program is a list of numbered instructions for a search through a text. Where an instruction has
two continuations, the first is tried first. A search never comes back to an instruction at the
same place: another way to it would fail in the same way, and a way that returned to itself would
be a detour. So the stop that is found first at a place is that of the most preferred way that
repeats nothing.

Programs are needed for repetitions that may take nothing, where going round is possible without
taking a character, and for repetitions with a range of counts, where the iterations share their
continuations.

## Main definitions

* `Instruction`, `Program` - programs
* `Program.add` - adds the instructions of an expression
* `Program.search` - the stops that a search finds
* `Regex.searched` - the stops of an expression by way of its program
-/

namespace RequestBinding.Regex

/-- An instruction. The numbers are those of the instructions to continue with. -/
inductive Instruction where
  | take (s : Unicode.RangeSet) (next : Nat)
  | test (l : Look) (next : Nat)
  | split (first second : Nat)
  | openGroup (next : Nat)
  | closeGroup (name : Option String) (next : Nat)
  | stop
  deriving Repr, DecidableEq

/-- The instructions of a program by number. -/
abbrev Program := Array Instruction

/-- A program under construction together with the number of the instruction that a part of it
starts with. -/
structure Part where
  entry : Nat
  program : Program

namespace Program

/-! ## Construction -/

/-- Adds an instruction. -/
def emit (p : Program) (i : Instruction) : Part := ⟨p.size, p.push i⟩

/-- A choice between entering a body and leaving it. -/
def choice (greedy : Bool) (body exit : Nat) : Instruction :=
  if greedy then .split body exit else .split exit body

/-- Adds the instructions that take a text. -/
def addText (p : Program) (exit : Nat) : List Char → Part
  | [] => ⟨exit, p⟩
  | c :: text =>
    let rest := addText p exit text
    rest.program.emit (.take (.single c) rest.entry)

/-- Adds a part some number of times in a row. -/
def addCopies (body : Nat → Program → Part) : Nat → Nat → Program → Part
  | 0, exit, p => ⟨exit, p⟩
  | n + 1, exit, p =>
    let rest := addCopies body n exit p
    body rest.entry rest.program

/-- Adds a part at most some number of times in a row. -/
def addOptional (body : Nat → Program → Part) (greedy : Bool) : Nat → Nat → Program → Part
  | 0, exit, p => ⟨exit, p⟩
  | n + 1, exit, p =>
    let rest := addOptional body greedy n exit p
    let one := body rest.entry rest.program
    one.program.emit (choice greedy one.entry exit)

/-- Adds a loop that is left after each iteration or gone through again. It is given with the number
of the choice between the two, and starts with an iteration. -/
def addLoop (body : Nat → Program → Part) (greedy : Bool) (exit : Nat) (p : Program) : Part × Nat :=
  let again := p.size
  let one := body again (p.push .stop)
  (⟨one.entry, one.program.setIfInBounds again (choice greedy one.entry exit)⟩, again)

/-- Adds a repetition. One without an upper bound whose body always takes something starts with the
choice of its loop; if the body may take nothing, it is an optional loop with at least one
iteration. -/
def addRepetition (body : Nat → Program → Part) (takesSome greedy : Bool) (low : Nat)
    (high : Option Nat) (exit : Nat) (p : Program) : Part :=
  match high with
  | some n =>
    let rest := addOptional body greedy (n - low) exit p
    addCopies body low rest.entry rest.program
  | none =>
    let (loop, again) := addLoop body greedy exit p
    match low with
    | 0 =>
      if takesSome then ⟨again, loop.program⟩
      else loop.program.emit (choice greedy loop.entry exit)
    | n + 1 => addCopies body n loop.entry loop.program

/-- Adds the instructions of an expression that continue with instruction `exit`. -/
def add : Regex → Nat → Program → Part
  | .empty, exit, p => ⟨exit, p⟩
  | .literal text, exit, p => p.addText exit text
  | .set s, exit, p => p.emit (.take s exit)
  | .look l, exit, p => p.emit (.test l exit)
  | .seq r s, exit, p =>
    let second := add s exit p
    add r second.entry second.program
  | .alt r s, exit, p =>
    let second := add s exit p
    let first := add r exit second.program
    first.program.emit (.split first.entry second.entry)
  | .rep greedy low high r, exit, p => addRepetition (add r) r.takesSome greedy low high exit p
  | .group name r, exit, p =>
    let close := p.emit (.closeGroup name exit)
    let inner := add r close.entry close.program
    inner.program.emit (.openGroup inner.entry)

/-- The program of an expression, with its first instruction. -/
def ofRegex (r : Regex) : Part := add r 0 #[.stop]

/-! ## Search -/

/-- A way to an instruction at a place, with the starts of the groups that are open, innermost
first, and the captures of those that are closed. -/
structure Thread where
  instruction : Nat
  cursor : Cursor
  opened : List Cursor
  captures : List Capture

/-- Where a way continues, the preferred continuation first; or the stop that it has reached. -/
def Thread.step (p : Program) (t : Thread) : List Thread ⊕ Stop :=
  match p[t.instruction]? with
  | some (.take s next) =>
    match t.cursor.next? with
    | some (x, d) =>
      .inl (if s.mem x.toNat then [{ t with instruction := next, cursor := d }] else [])
    | none => .inl []
  | some (.test l next) =>
    .inl (if l.holds t.cursor then [{ t with instruction := next }] else [])
  | some (.split first second) =>
    .inl [{ t with instruction := first }, { t with instruction := second }]
  | some (.openGroup next) =>
    .inl [{ t with instruction := next, opened := t.cursor :: t.opened }]
  | some (.closeGroup name next) =>
    match t.opened with
    | first :: opened =>
      let captures := t.captures ++ captured name first t.cursor
      .inl [⟨next, t.cursor, opened, captures⟩]
    | [] => .inl []
  | some .stop => .inr ⟨t.captures, t.cursor⟩
  | none => .inl []

/-- Follows ways in order of preference. `visited` has for each instruction the places at which it
has been reached: bit `n` is set for the place with `n` characters left. -/
def search (p : Program) : Nat → List Thread → Array Nat → Found → Found
  | 0, _, _, f => f
  | _ + 1, [], _, f => f
  | fuel + 1, t :: rest, visited, f =>
    let seen := visited.getD t.instruction 0
    if seen.testBit t.cursor.left then search p fuel rest visited f
    else
      let visited := visited.setIfInBounds t.instruction (seen ||| 1 <<< t.cursor.left)
      match t.step p with
      | .inl next => search p fuel (next ++ rest) visited f
      | .inr s => search p fuel rest visited (f.add s)

end Program

/-- The stops of an expression by way of its program. Every instruction is carried out at most once
at a place and has at most two continuations, which bounds the length of the search. -/
def searched (r : Regex) (c : Cursor) : List Stop :=
  let part := Program.ofRegex r
  let p := part.program
  let fuel := 2 * p.size * (c.left + 1) + 2
  (p.search fuel [⟨part.entry, c, [], []⟩] (Array.replicate p.size 0) .none).toList

end RequestBinding.Regex
