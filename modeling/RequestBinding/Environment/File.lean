import RequestBinding.Environment.Basic
import RequestBinding.Text.Utf8
import RequestBinding.Unicode.Case

/-!
# Environment files

An environment file sets variables line by line, as in `NAME=value`. Quotation marks let a value go
on over several lines; a dollar sign brings in the value of another variable; what follows a number
sign after a blank is a comment. Variables that are set already keep their values.

## Main definitions

* `EnvironmentFile.lines` - the lines, those within quotation marks joined
* `EnvironmentFile.value?` - the value that a text denotes
* `EnvironmentFile.load` - sets the variables of a file
-/

namespace RequestBinding.EnvironmentFile

/-! ## Lines -/

/-- What the next character of a line is subject to. -/
inductive Quoting where
  | plain
  /-- It follows a blank, so that a number sign begins a comment. -/
  | blank
  | escaped
  | weak
  | weakEscaped
  | strong
  | strongEscaped
  deriving Repr, DecidableEq

/-- What follows a character that is subject to no quotation. -/
def afterPlain (c : Char) (otherwise : Quoting) : Quoting :=
  if c == '\\' then .escaped
  else if c == '"' then .weak
  else if c == '\x27' then .strong
  else otherwise

/-- What the character after `c` is subject to. -/
def Quoting.step (q : Quoting) (c : Char) : Quoting :=
  match q with
  | .plain =>
    afterPlain c (if Unicode.isBlank c && c != '\n' && c != '\r' then .blank else .plain)
  | .blank => afterPlain c .plain
  | .escaped => .plain
  | .weak => if c == '\\' then .weakEscaped else if c == '"' then .plain else .weak
  | .weakEscaped => .weak
  | .strong => if c == '\\' then .strongEscaped else if c == '\x27' then .plain else .strong
  | .strongEscaped => .strong

/-- What follows the current line. -/
def afterLine (cs : List Char) : List Char := (cs.dropWhile (· != '\n')).drop 1

/-- One line with those that quotation marks join to it, and what follows; none if the text ends
within quotation marks, after a backslash or after a blank. `line` is what has been read of the
line, backwards. -/
def scan (q : Quoting) (line : List Char) : List Char → Option (List Char × List Char)
  | [] => if q = .plain then some (line.reverse, []) else none
  | c :: rest =>
    if q = .blank && c == '#' then some (line.reverse, afterLine rest)
    else
      let q := q.step c
      if q = .plain && c == '\n' then some (line.reverse, rest)
      else scan q (c :: line) rest

/-- Whether a line is a comment. -/
def isComment (cs : List Char) : Bool :=
  ((cs.takeWhile (· != '\n')).dropWhile Unicode.isBlank).head? == some '#'

/-- The lines of a text, without comments that take a whole line. -/
def lines (cs : List Char) : Option (List (List Char)) :=
  if cs.isEmpty then some []
  else if isComment cs then
    if (afterLine cs).length < cs.length then lines (afterLine cs) else none
  else
    match scan .plain [] cs with
    | some (line, rest) =>
      if rest.length < cs.length then (lines rest).map (line :: ·) else none
    | none => none
  termination_by cs.length

/-! ## Values -/

/-- How the next character of a value is read. -/
inductive Mode where
  | text
  | escaped
  | strong
  /-- It may belong to the name of a variable; given is the name so far, backwards. -/
  | name (cs : List Char)
  /-- The name stands in braces. -/
  | braced (cs : List Char)
  /-- The value has ended; only a comment may follow. -/
  | ended
  | comment
  deriving Repr, DecidableEq

/-- A value being read: its characters, backwards, and whether it is within weak quotation
marks. -/
structure Reading where
  output : List Char
  weak : Bool
  mode : Mode
  deriving Repr

namespace Reading

/-- Adds a character and goes on with text. -/
def push (r : Reading) (c : Char) : Reading := { r with output := c :: r.output, mode := .text }

/-- Adds the value of a variable, whose name is given backwards; one that is not set adds
nothing. -/
def substitute (e : Environment) (r : Reading) (name : List Char) : Reading :=
  let value := (e.get? (String.ofList name.reverse)).getD ""
  { r with output := value.toList.reverse ++ r.output, mode := .text }

/-- Takes a character that is part of the text. -/
def textStep (r : Reading) (c : Char) : Reading :=
  if c == '$' then { r with mode := .name [] }
  else if c == '\\' then { r with mode := .escaped }
  else if c == '"' then { r with weak := !r.weak }
  else if r.weak then r.push c
  else if c == '\x27' then { r with mode := .strong }
  else if c == ' ' || c == '\t' then { r with mode := .ended }
  else r.push c

/-- Takes a character that may belong to a name. -/
def nameStep (e : Environment) (r : Reading) (name : List Char) (c : Char) : Reading :=
  if Unicode.isAlphanumeric c then { r with mode := .name (c :: name) }
  else if c == '{' && name.isEmpty then { r with mode := .braced [] }
  else
    let r := r.substitute e name
    if c == '$' then { r with mode := .name [] } else r.push c

/-- Takes one character. -/
def step (e : Environment) (r : Reading) (c : Char) : Option Reading :=
  match r.mode with
  | .text => some (r.textStep c)
  | .escaped =>
    if ['\\', '\x27', '"', '$', ' '].contains c then some (r.push c)
    else if c == 'n' then some (r.push '\n')
    else none
  | .strong =>
    some (if c == '\x27' then { r with mode := .text } else { r with output := c :: r.output })
  | .name cs => some (r.nameStep e cs c)
  | .braced cs =>
    some (if c == '}' then r.substitute e cs else { r with mode := .braced (c :: cs) })
  | .ended =>
    if c == ' ' || c == '\t' then some r
    else if c == '#' then some { r with mode := .comment }
    else none
  | .comment => some r

/-- The value at the end of a text; none within quotation marks or braces. -/
def finish (e : Environment) (r : Reading) : Option String :=
  if r.weak then none
  else
    match r.mode with
    | .strong => none
    | .braced _ => none
    | .name cs => some (String.ofList (r.substitute e cs).output.reverse)
    | _ => some (String.ofList r.output.reverse)

end Reading

/-- The value that a text denotes. -/
def value? (e : Environment) (cs : List Char) : Option String :=
  (cs.foldlM (Reading.step e) ⟨[], false, .text⟩).bind (Reading.finish e)

/-! ## Assignments -/

/-- The name of a variable, and what follows. -/
def name? (cs : List Char) : Option (String × List Char) :=
  let inName := fun c : Char => c.isAlphanum || c == '_' || c == '.'
  match cs with
  | [] => none
  | c :: _ =>
    if c.isAlpha || c == '_' then
      some (String.ofList (cs.takeWhile inName), cs.dropWhile inName)
    else none

/-- Skips blanks. -/
def skip (cs : List Char) : List Char := cs.dropWhile Unicode.isBlank

/-- The name to which a line assigns, and the text of the value. The word `export` may stand before
a name. -/
def target? (cs : List Char) : Option (String × List Char) :=
  match name? cs with
  | none => none
  | some (name, rest) =>
    match skip rest with
    | '=' :: rest => some (name, rest)
    | rest =>
      if name = "export" then
        match name? rest with
        | none => none
        | some (name, rest) =>
          match skip rest with
          | '=' :: rest => some (name, rest)
          | _ => none
      else none

/-- Carries a line out; none if it is neither blank nor a comment nor an assignment. -/
def apply (e : Environment) (line : List Char) : Option Environment :=
  match Unicode.trimBlank line with
  | [] => some e
  | '#' :: _ => some e
  | cs =>
    match target? cs with
    | none => none
    | some (name, rest) =>
      match skip rest with
      | [] => some (e.setMissing name "")
      | '#' :: _ => some (e.setMissing name "")
      | rest => (value? e rest).map (e.setMissing name)

/-- The mark that a file may begin with. -/
def byteOrderMark : Char := Char.ofNat 0xFEFF

/-- Sets the variables of a file; none if it is not UTF-8 or a line has a fault. -/
def load (e : Environment) (file : List UInt8) : Option Environment :=
  match Utf8.decode file with
  | .error _ => none
  | .ok cs =>
    (lines (if cs.head? == some byteOrderMark then cs.drop 1 else cs)).bind fun ls =>
      ls.foldlM apply e

end RequestBinding.EnvironmentFile
