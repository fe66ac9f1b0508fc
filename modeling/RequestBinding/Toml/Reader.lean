import RequestBinding.Json.Reader
import RequestBinding.Toml.Table
import RequestBinding.Toml.Token

/-!
# Reading TOML

A document is read into statements, one a line, from which its table is assembled. Containers
within each other and dotted keys are limited in depth and length.

## Main definitions

* `Toml.statements` - the statements of a text
* `Toml.read` - the table of a text
-/

namespace RequestBinding.Toml

/-- A part of a document, and the characters after it. -/
abbrev Read (α : Type) := Option (α × List Char)

/-! ## Blanks, comments and line ends -/

/-- Skips blanks and tabs. -/
def skip (cs : List Char) : List Char := cs.dropWhile fun c => c == ' ' || c == '\t'

/-- The characters that may stand in comments and, but for the quotation marks, in strings: the tab
and all that are not control characters. -/
def isPlain (c : Char) : Bool := c == '\t' || (0x20 ≤ c.toNat && c.toNat != 0x7F)

/-- What follows a line end: a line feed, with or without a carriage return before it. -/
def afterNewline? : List Char → Option (List Char)
  | '\n' :: rest => some rest
  | '\r' :: '\n' :: rest => some rest
  | _ => none

/-- Skips a comment, if there is one. -/
def skipComment : List Char → List Char
  | '#' :: rest => rest.dropWhile isPlain
  | cs => cs

/-- What follows the rest of a line: blanks, a comment, and the line end or the end of the text. -/
def afterLine? (cs : List Char) : Option (List Char) :=
  match skipComment (skip cs) with
  | [] => some []
  | rest => afterNewline? rest

/-- Skips blanks, comments and line ends. -/
def skipLines (cs : List Char) : Option (List Char) :=
  match skip cs with
  | '#' :: rest =>
    match _h : afterLine? ('#' :: rest) with
    | some after => if after.length < cs.length then skipLines after else none
    | none => none
  | rest =>
    match afterNewline? rest with
    | some after => if after.length < cs.length then skipLines after else none
    | none => some rest
  termination_by cs.length

/-! ## Strings -/

/-- The value of hexadecimal digits; none if there is another character. -/
def hexValue? (cs : List Char) : Option Nat :=
  cs.foldlM (fun n c => (Json.hexValue c).map fun d => n * 16 + d) 0

/-- The character with a number given by as many hexadecimal digits; none if there is no such
character. -/
def unicodeEscape (digits : Nat) (cs : List Char) : Read Char :=
  let ds := cs.take digits
  if ds.length < digits then none
  else
    match hexValue? ds with
    | some n => if n.isValidChar then some (Char.ofNat n, cs.drop digits) else none
    | none => none

/-- The character for an escape after its backslash. -/
def escape : List Char → Read Char
  | 'b' :: rest => some (Char.ofNat 8, rest)
  | 't' :: rest => some ('\t', rest)
  | 'n' :: rest => some ('\n', rest)
  | 'f' :: rest => some (Char.ofNat 12, rest)
  | 'r' :: rest => some ('\r', rest)
  | '"' :: rest => some ('"', rest)
  | '\\' :: rest => some ('\\', rest)
  | 'u' :: rest => unicodeEscape 4 rest
  | 'U' :: rest => unicodeEscape 8 rest
  | _ => none

/-- A string of one line after its opening mark; escapes have a meaning where `escapes` says so. -/
def lineTail (mark : Char) (escapes : Bool) (cs : List Char) : Read (List Char) :=
  match cs with
  | [] => none
  | c :: rest =>
    if c == mark then some ([], rest)
    else if escapes && c == '\\' then
      match escape rest with
      | some (e, after) =>
        if after.length ≤ rest.length then
          (lineTail mark escapes after).map fun (s, rest) => (e :: s, rest)
        else none
      | none => none
    else if isPlain c then (lineTail mark escapes rest).map fun (s, rest) => (c :: s, rest)
    else none
  termination_by cs.length

/-- Skips blanks and line ends. -/
def skipBlankLines (cs : List Char) : List Char :=
  match skip cs with
  | '\n' :: rest => if rest.length < cs.length then skipBlankLines rest else rest
  | '\r' :: '\n' :: rest => if rest.length < cs.length then skipBlankLines rest else rest
  | rest => rest
  termination_by cs.length

/-- What follows a backslash at the end of a line: the line end, and all blanks and line ends after
it. -/
def afterFold? (cs : List Char) : Option (List Char) :=
  (afterNewline? (skip cs)).map skipBlankLines

/-- A string of several lines after its opening marks. Three marks end it, and up to two more before
them belong to it. Line ends become line feeds. -/
def linesTail (mark : Char) (escapes : Bool) (cs : List Char) : Read (List Char) :=
  match cs with
  | [] => none
  | c :: rest =>
    let next := fun (written after : List Char) =>
      if after.length ≤ rest.length then
        (linesTail mark escapes after).map fun (s, rest) => (written ++ s, rest)
      else none
    if c == mark then
      let marks := cs.takeWhile (· == mark)
      let after := cs.dropWhile (· == mark)
      if marks.length < 3 then next marks after
      else if marks.length ≤ 5 then some (marks.drop 3, after)
      else none
    else if escapes && c == '\\' then
      match afterFold? rest with
      | some after => next [] after
      | none =>
        match escape rest with
        | some (e, after) => next [e] after
        | none => none
    else
      match afterNewline? cs with
      | some after => next ['\n'] after
      | none => if isPlain c then next [c] rest else none
  termination_by cs.length

/-- A string of several lines; a line end right after the opening marks does not belong to it. -/
def linesString (mark : Char) (escapes : Bool) (cs : List Char) : Read (List Char) :=
  linesTail mark escapes ((afterNewline? cs).getD cs)

/-- A string of one or several lines. -/
def string : List Char → Read String
  | '"' :: '"' :: '"' :: rest => (linesString '"' true rest).map fun (s, r) => (String.ofList s, r)
  | '"' :: rest => (lineTail '"' true rest).map fun (s, r) => (String.ofList s, r)
  | '\x27' :: '\x27' :: '\x27' :: rest =>
    (linesString '\x27' false rest).map fun (s, r) => (String.ofList s, r)
  | '\x27' :: rest => (lineTail '\x27' false rest).map fun (s, r) => (String.ofList s, r)
  | _ => none

/-! ## Keys -/

/-- The characters of keys without quotation marks. -/
def isKeyChar (c : Char) : Bool := c.isAlphanum || c == '-' || c == '_'

/-- One part of a key. -/
def simpleKey (cs : List Char) : Read String :=
  match cs with
  | '"' :: rest => (lineTail '"' true rest).map fun (s, r) => (String.ofList s, r)
  | '\x27' :: rest => (lineTail '\x27' false rest).map fun (s, r) => (String.ofList s, r)
  | cs =>
    let k := cs.takeWhile isKeyChar
    if k.isEmpty then none else some (String.ofList k, cs.dropWhile isKeyChar)

/-- The most containers within each other, and the most parts of a key. -/
def maxDepth : Nat := 79

/-- A key of at most `parts` parts with dots between them: all but the last part, and the last. -/
def key (parts : Nat) (cs : List Char) : Read (List String × String) :=
  match parts with
  | 0 => none
  | n + 1 =>
    match simpleKey (skip cs) with
    | none => none
    | some (k, rest) =>
      match skip rest with
      | '.' :: rest => (key n rest).map fun ((path, last), rest) => ((k :: path, last), rest)
      | rest => some (([], k), rest)

/-! ## Values -/

/-- The rest of an array from its first item, or its closing bracket, on. -/
def arrayTail (value : List Char → Read Document) (cs : List Char) :
    Option (List Document × List Char) := do
  let cs₁ ← skipLines cs
  match cs₁ with
  | ']' :: rest => return ([], rest)
  | _ =>
    let (v, rest) ← value cs₁
    let rest ← skipLines rest
    match rest with
    | ',' :: rest =>
      if rest.length < cs.length then
        let (vs, rest) ← arrayTail value rest
        return (v :: vs, rest)
      else none
    | ']' :: rest => return ([v], rest)
    | _ => none
  termination_by cs.length

/-- A dotted key, an equals sign and a value. -/
def pair (value : List Char → Read Document) (cs : List Char) :
    Option ((List String × String × Document) × List Char) := do
  let ((path, k), rest) ← key maxDepth cs
  match rest with
  | '=' :: rest =>
    let (v, rest) ← value (skip rest)
    return ((path, k, v), rest)
  | _ => none

/-- The pairs of a table in braces, from its first pair on. -/
def pairsTail (value : List Char → Read Document) (cs : List Char) :
    Option (List (List String × String × Document) × List Char) := do
  let (p, rest) ← pair value cs
  match skip rest with
  | ',' :: rest =>
    if rest.length < cs.length then
      let (ps, rest) ← pairsTail value rest
      return (p :: ps, rest)
    else none
  | '}' :: rest => return ([p], rest)
  | _ => none
  termination_by cs.length

/-- The pairs of a table in braces. -/
def pairs (value : List Char → Read Document) (cs : List Char) :
    Read (List (List String × String × Document)) :=
  match skip cs with
  | '}' :: rest => some ([], rest)
  | rest => pairsTail value rest

/-- A fixed word. -/
def word (w : List Char) (v : Document) (cs : List Char) : Read Document :=
  if w.isPrefixOf cs then some (v, cs.drop w.length) else none

/-- A value that starts here and has at most `levels` containers within each other. -/
def value (levels : Nat) (cs : List Char) : Read Document :=
  match cs with
  | '"' :: _ | '\x27' :: _ => (string cs).map fun (s, rest) => (.text s, rest)
  | 't' :: _ => word ['t', 'r', 'u', 'e'] (.flag true) cs
  | 'f' :: _ => word ['f', 'a', 'l', 's', 'e'] (.flag false) cs
  | '[' :: rest =>
    match levels with
    | 0 => none
    | n + 1 => (arrayTail (value n) rest).map fun (vs, rest) => (.list vs, rest)
  | '{' :: rest =>
    match levels with
    | 0 => none
    | n + 1 =>
      match pairs (value n) rest with
      | some (ps, rest) => (inline? ps).map fun v => (v, rest)
      | none => none
  | cs => (afterToken? cs).map fun rest => (.scalar, rest)

/-! ## Statements -/

/-- A key in brackets and the rest of its line. -/
def headerLine (close : List Char) (cs : List Char) :
    Option (List String × List Char) := do
  let ((path, last), rest) ← key maxDepth cs
  if close.isPrefixOf rest then
    let rest ← afterLine? (rest.drop close.length)
    return (path ++ [last], rest)
  else none

/-- The statement that starts here, and what follows its line. -/
def statement (cs : List Char) : Read Statement :=
  match cs with
  | '[' :: '[' :: rest => (headerLine [']', ']'] rest).map fun (path, rest) => (.element path, rest)
  | '[' :: rest => (headerLine [']'] rest).map fun (path, rest) => (.header path, rest)
  | cs =>
    match pair (value maxDepth) cs with
    | some ((path, k, v), rest) => (afterLine? rest).map fun rest => (.pair path k v, rest)
    | none => none

/-- The statements of a text. -/
def statements (cs : List Char) : Option (List Statement) := do
  let cs₁ ← skipLines cs
  match cs₁ with
  | [] => return []
  | _ =>
    let (s, rest) ← statement cs₁
    if rest.length < cs.length then
      let ss ← statements rest
      return s :: ss
    else none
  termination_by cs.length

/-- The mark that a text may begin with. -/
def byteOrderMark : Char := Char.ofNat 0xFEFF

/-- The table of a text. -/
def read (cs : List Char) : Option Document :=
  (statements (if cs.head? == some byteOrderMark then cs.drop 1 else cs)).bind assemble

end RequestBinding.Toml
