import RequestBinding.Regex.Basic
import RequestBinding.Regex.PropertyQuery
import RequestBinding.Unicode.Case
import RequestBinding.Unicode.Folding

/-!
# Modes and escapes of patterns

The modes that flags switch, and the pieces of a pattern that begin with a backslash. Reading
functions take the characters from a place of the pattern on and give what they read together
with the characters after it; none means that the pattern is malformed.

## Main definitions

* `Mode` - the switches in force at a place of a pattern
* `skipVerbose` - blanks and comments that the verbose mode ignores
* `Primitive`, `readEscape` - what an escape stands for
-/

namespace RequestBinding.Regex

open RequestBinding.Unicode

/-- The switches in force at a place of a pattern. -/
structure Mode where
  ignoreCase : Bool
  multiLine : Bool
  dotAll : Bool
  swapGreed : Bool
  unicode : Bool
  crlf : Bool
  verbose : Bool
  deriving Repr, DecidableEq

/-- The mode at the start of a pattern. -/
def Mode.initial : Mode := ⟨false, false, false, false, true, false, false⟩

/-! ## Blanks and comments -/

/-- Skips a comment up to the end of its line. -/
def skipLine : List Char → List Char
  | [] => []
  | c :: rest => if c == '\n' then rest else skipLine rest

theorem skipLine_length (cs : List Char) : (skipLine cs).length ≤ cs.length := by
  induction cs with
  | nil => simp [skipLine]
  | cons c rest ih =>
    simp only [skipLine]
    split
    · simp
    · rw [List.length_cons]
      omega

/-- Skips blanks and comments. -/
def skipVerbose (cs : List Char) : List Char :=
  match cs with
  | [] => []
  | c :: rest =>
    if isBlank c then skipVerbose rest
    else if c == '#' then skipVerbose (skipLine rest)
    else c :: rest
  termination_by cs.length
  decreasing_by
    · simp
    · have := skipLine_length rest
      simp; omega

theorem skipVerbose_length (cs : List Char) : (skipVerbose cs).length ≤ cs.length := by
  fun_induction skipVerbose cs with
  | case1 => simp
  | case2 c rest _ ih => simp; omega
  | case3 c rest _ _ ih =>
    have := skipLine_length rest
    simp; omega
  | case4 => simp

/-- Skips blanks and comments in verbose mode, and nothing otherwise. -/
def skipSpace (m : Mode) (cs : List Char) : List Char := if m.verbose then skipVerbose cs else cs

theorem skipSpace_length (m : Mode) (cs : List Char) : (skipSpace m cs).length ≤ cs.length := by
  unfold skipSpace
  split
  · exact skipVerbose_length cs
  · exact Nat.le_refl _

/-! ## Escapes -/

/-- What a primitive piece of a pattern stands for. -/
inductive Primitive where
  /-- A character. `byte` is set for an escape that names a byte above the ASCII range. -/
  | char (c : Char) (byte : Bool)
  | set (s : RangeSet)
  | look (l : Look)
  deriving Repr

/-- The characters with a meaning in patterns. -/
def isMeta (c : Char) : Bool :=
  ['\\', '.', '+', '*', '?', '(', ')', '|', '[', ']', '{', '}', '^', '$', '#', '&', '-',
    '~'].contains c

/-- The characters that stand for themselves after a backslash: all ASCII characters but letters,
digits and angle brackets. -/
def isEscapable (c : Char) : Bool :=
  isMeta c || (c.toNat < 128 && !c.isAlphanum && c != '<' && c != '>')

/-- The value of a hexadecimal digit of either case. -/
def hexValue (c : Char) : Option Nat :=
  if c.isDigit then some (c.toNat - '0'.toNat)
  else if 'a' ≤ c && c ≤ 'f' then some (c.toNat - 'a'.toNat + 10)
  else if 'A' ≤ c && c ≤ 'F' then some (c.toNat - 'A'.toNat + 10)
  else none

/-- The character with a code point, if there is one. -/
def charOf (n : Nat) : Option Char := if n.isValidChar then some (Char.ofNat n) else none

/-- Reads `n` hexadecimal digits. -/
def hexDigits (m : Mode) : Nat → Nat → List Char → Option (Nat × List Char)
  | 0, value, cs => some (value, cs)
  | n + 1, value, cs =>
    match cs with
    | [] => none
    | c :: rest =>
      match hexValue c with
      | some d => hexDigits m n (value * 16 + d) (skipSpace m rest)
      | none => none

/-- Reads hexadecimal digits up to the closing brace; `count` were read before. -/
def hexBrace (m : Mode) (count value : Nat) (cs : List Char) : Option (Nat × List Char) :=
  match cs with
  | [] => none
  | c :: rest =>
    if c == '}' then if count == 0 then none else some (value, skipSpace m rest)
    else
      match hexValue c with
      | some d =>
        if value < Nat.pow 2 32 then hexBrace m (count + 1) (value * 16 + d) (skipSpace m rest)
        else none
      | none => none
  termination_by cs.length
  decreasing_by
    have := skipSpace_length m rest
    simp; omega

/-- Reads a character given by its code point after `\x` (two digits), `\u` (four) or `\U`
(eight), or in braces. -/
def readHex (m : Mode) (digits : Nat) (cs : List Char) : Option (Primitive × List Char) :=
  match skipSpace m cs with
  | [] => none
  | '{' :: rest =>
    match hexBrace m 0 0 (skipSpace m rest) with
    | some (n, rest) => (charOf n).map fun c => (.char c false, rest)
    | none => none
  | cs =>
    match hexDigits m digits 0 cs with
    | some (n, rest) => (charOf n).map fun c => (.char c (digits == 2 && 127 < n), rest)
    | none => none

/-- Closes a set under case variants in the mode that ignores case; without the Unicode mode only
ASCII letters have variants. -/
def foldSet (m : Mode) (s : RangeSet) : RangeSet :=
  if !m.ignoreCase then s else if m.unicode then s.fold else s.foldAscii

/-- Reads the rest of a query in braces. -/
def queryBrace (m : Mode) (cs : List Char) : Option (List Char × List Char) :=
  match cs with
  | [] => none
  | c :: rest =>
    if c == '}' then some ([], rest)
    else (queryBrace m (skipSpace m rest)).map fun (q, rest) => (c :: q, rest)
  termination_by cs.length
  decreasing_by
    have := skipSpace_length m rest
    simp; omega

/-- Reads a set given by a property after `\p` or `\P`. Without the Unicode mode there are none. -/
def readProperty (m : Mode) (negated : Bool) (cs : List Char) : Option (Primitive × List Char) :=
  let found := fun (query : Option (RangeSet × Bool)) (rest : List Char) =>
    if !m.unicode then none
    else
      query.map fun (s, complemented) =>
        let s := foldSet m s
        (Primitive.set (if negated != complemented then s.compl else s), rest)
  match skipSpace m cs with
  | [] => none
  | '{' :: rest =>
    match queryBrace m (skipSpace m rest) with
    | some (query, rest) => found (queriedSet? query) rest
    | none => none
  | c :: rest =>
    if c == '\\' then none
    else found ((namedSet? (looseName [c])).map (·, false)) (skipSpace m rest)

/-- The sets of `\d`, `\s` and `\w`, or their complements. Without the Unicode mode they hold
ASCII characters alone and have no complements. -/
def shorthand (m : Mode) (c : Char) : Option RangeSet :=
  let build := fun (s : RangeSet) (ascii : String) (negated : Bool) =>
    if m.unicode then some (if negated then s.compl else s)
    else if negated then none
    else some (.ofText ascii)
  match c with
  | 'd' => build digitSet "30-39" false
  | 'D' => build digitSet "30-39" true
  | 's' => build blankSet "9-D 20" false
  | 'S' => build blankSet "9-D 20" true
  | 'w' => build wordSet "30-39 41-5A 5F 61-7A" false
  | 'W' => build wordSet "30-39 41-5A 5F 61-7A" true
  | _ => none

/-- The characters that may stand in the name of a word boundary. -/
def isBoundaryChar (c : Char) : Bool := c.isAlpha || c == '-'

/-- Reads the name of a word boundary up to the closing brace. -/
def boundaryName (m : Mode) (cs : List Char) : Option (List Char × List Char) :=
  match cs with
  | [] => none
  | c :: rest =>
    if c == '}' then some ([], rest)
    else if isBoundaryChar c then
      (boundaryName m (skipSpace m rest)).map fun (n, rest) => (c :: n, rest)
    else none
  termination_by cs.length
  decreasing_by
    have := skipSpace_length m rest
    simp; omega

/-- Reads what follows `\b`: a name in braces makes it a special boundary, while braces with other
contents are left for a repetition. -/
def readBoundary (m : Mode) (cs : List Char) : Option (Primitive × List Char) :=
  match cs with
  | '{' :: rest =>
    match skipSpace m rest with
    | [] => none
    | d :: more =>
      if !isBoundaryChar d then some (.look (.wordEdge m.unicode), cs)
      else
        match boundaryName m (d :: more) with
        | none => none
        | some (name, rest) =>
          match String.ofList name with
          | "start" => some (.look (.wordStart m.unicode), rest)
          | "end" => some (.look (.wordEnd m.unicode), rest)
          | "start-half" => some (.look (.wordStartHalf m.unicode), rest)
          | "end-half" => some (.look (.wordEndHalf m.unicode), rest)
          | _ => none
  | _ => some (.look (.wordEdge m.unicode), cs)

/-- Reads an escape after its backslash. -/
def readEscape (m : Mode) : List Char → Option (Primitive × List Char)
  | [] => none
  | c :: rest =>
    match c with
    | 'x' => readHex m 2 rest
    | 'u' => readHex m 4 rest
    | 'U' => readHex m 8 rest
    | 'p' => readProperty m false rest
    | 'P' => readProperty m true rest
    | 'd' | 'D' | 's' | 'S' | 'w' | 'W' => (shorthand m c).map fun s => (.set s, rest)
    | 'a' => some (.char (Char.ofNat 7) false, rest)
    | 'f' => some (.char (Char.ofNat 12) false, rest)
    | 't' => some (.char '\t' false, rest)
    | 'n' => some (.char '\n' false, rest)
    | 'r' => some (.char '\r' false, rest)
    | 'v' => some (.char (Char.ofNat 11) false, rest)
    | 'A' => some (.look .textStart, rest)
    | 'z' => some (.look .textEnd, rest)
    | 'b' => readBoundary m rest
    | 'B' => some (.look (.noWordEdge m.unicode), rest)
    | '<' => some (.look (.wordStart m.unicode), rest)
    | '>' => some (.look (.wordEnd m.unicode), rest)
    | c => if isEscapable c then some (.char c false, rest) else none

end RequestBinding.Regex
