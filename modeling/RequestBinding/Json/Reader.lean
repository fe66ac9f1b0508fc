import RequestBinding.Json.Basic
import RequestBinding.Text.Utf8

/-!
# Reading JSON

Strict JSON: no comments, no trailing commas, nothing after the value but blanks, and at most 127
containers within each other. Reading keeps the members of objects as they stand, so that a
repeated key can be told; `Json.read` brings the result into canonical form.

An integer literal that fits 64 bits, with or without sign, is an integer. Any other number
literal is a double: its digits are gathered into a significand of at most 64 bits, the digits
after those only count for the exponent, and a literal beyond the greatest double is refused.

## Main definitions

* `Json.readRaw` - the value as it stands
* `Json.read` - the canonical value
* `Json.readBytes` - the canonical value of a byte sequence
-/

namespace RequestBinding.Json

/-- A value or part of one, and the characters after it. -/
abbrev Read (α : Type) := Option (α × List Char)

/-- The blanks between the tokens of a JSON text. -/
def isSpace (c : Char) : Bool := c == ' ' || c == '\n' || c == '\t' || c == '\r'

/-- Skips blanks. -/
def skip (cs : List Char) : List Char := cs.dropWhile isSpace

/-! ## Strings -/

/-- The value of a hexadecimal digit of either case. -/
def hexValue (c : Char) : Option Nat :=
  if c.isDigit then some (c.toNat - '0'.toNat)
  else if 'a' ≤ c && c ≤ 'f' then some (c.toNat - 'a'.toNat + 10)
  else if 'A' ≤ c && c ≤ 'F' then some (c.toNat - 'A'.toNat + 10)
  else none

/-- Four hexadecimal digits. -/
def hex4 (a b c d : Char) : Option Nat :=
  match hexValue a, hexValue b, hexValue c, hexValue d with
  | some a, some b, some c, some d => some (((a * 16 + b) * 16 + c) * 16 + d)
  | _, _, _, _ => none

/-- The character of an escape of one letter. -/
def shortEscape (c : Char) : Option Char :=
  match c with
  | '"' => some '"'
  | '\\' => some '\\'
  | '/' => some '/'
  | 'b' => some (Char.ofNat 8)
  | 'f' => some (Char.ofNat 12)
  | 'n' => some '\n'
  | 'r' => some '\r'
  | 't' => some '\t'
  | _ => none

/-- The character of a leading and a trailing surrogate. -/
def joinSurrogates (high low : Nat) : Char :=
  Char.ofNat (0x10000 + (high - 0xD800) * 1024 + (low - 0xDC00))

/-- The escape after a backslash: its character and how many characters it takes. A surrogate
stands for a character only as the first half of a pair. -/
def escape : List Char → Option (Char × Nat)
  | 'u' :: a :: b :: c :: d :: rest =>
    match hex4 a b c d with
    | none => none
    | some n =>
      if 0xD800 ≤ n && n ≤ 0xDBFF then
        match rest with
        | '\\' :: 'u' :: e :: f :: g :: h :: _ =>
          match hex4 e f g h with
          | some low =>
            if 0xDC00 ≤ low && low ≤ 0xDFFF then some (joinSurrogates n low, 11) else none
          | none => none
        | _ => none
      else if 0xDC00 ≤ n && n ≤ 0xDFFF then none
      else some (Char.ofNat n, 5)
  | c :: _ => (shortEscape c).map (·, 1)
  | [] => none

/-- The characters of a string after its opening quotation mark. -/
def stringTail : List Char → Read (List Char)
  | [] => none
  | c :: rest =>
    if c == '"' then some ([], rest)
    else if c == '\\' then
      match escape rest with
      | none => none
      | some (e, width) =>
        match stringTail (rest.drop width) with
        | some (cs, rest) => some (e :: cs, rest)
        | none => none
    else if c.toNat < 0x20 then none
    else
      match stringTail rest with
      | some (cs, rest) => some (c :: cs, rest)
      | none => none
  termination_by cs => cs.length

/-! ## Numbers -/

/-- The value of a decimal digit. -/
def digitValue (c : Char) : Nat := c.toNat - '0'.toNat

/-- The greatest significand. -/
def significandMax : Nat := 18446744073709551615

/-- Appends digits to a significand while it stays within 64 bits; gives the significand, how
many digits were appended, and the characters after those. -/
def gather (significand count : Nat) : List Char → Nat × Nat × List Char
  | [] => (significand, count, [])
  | c :: rest =>
    if c.isDigit && significand * 10 + digitValue c ≤ significandMax then
      gather (significand * 10 + digitValue c) (count + 1) rest
    else (significand, count, c :: rest)

/-- The value of a list of decimal digits. -/
def digitsValue (ds : List Char) : Nat := ds.foldl (fun n c => n * 10 + digitValue c) 0

/-- Exponents beyond this one are as good as infinite. -/
def exponentMax : Int := 2147483647

/-- Adds the written exponent to the one that the digits gave, within 32 bits. -/
def addExponent (start written : Int) : Int :=
  max (-exponentMax - 1) (min exponentMax (start + written))

/-- The double of a literal with the exponent that follows its digits, if any. -/
def exponentPart (negative : Bool) (significand : Nat) (start : Int) : List Char → Read Json
  | c :: rest =>
    if c == 'e' || c == 'E' then
      let (minus, rest) :=
        match rest with
        | '+' :: more => (false, more)
        | '-' :: more => (true, more)
        | more => (false, more)
      let ds := rest.takeWhile Char.isDigit
      let rest := rest.dropWhile Char.isDigit
      if ds.isEmpty then none
      else
        let n : Int := digitsValue ds
        if exponentMax < n then
          if significand != 0 && !minus then none
          else some (.float (Binary64.zero negative), rest)
        else
          (Binary64.ofDecimal negative significand (addExponent start (if minus then -n else n))).map
            fun x => (.float x, rest)
    else
      (Binary64.ofDecimal negative significand start).map fun x => (.float x, c :: rest)
  | [] => (Binary64.ofDecimal negative significand start).map fun x => (.float x, [])

/-- The double of a literal after its decimal point; `start` counts the digits before the point
that the significand has no room for. -/
def fractionPart (negative : Bool) (significand : Nat) (start : Int) (cs : List Char) : Read Json :=
  let (n, count, rest) := gather significand 0 cs
  let rest' := rest.dropWhile Char.isDigit
  if count == 0 && rest'.length == rest.length then none
  else exponentPart negative n (start - count) rest'

/-- What follows the whole digits of a literal that has to be a double. -/
def longPart (negative : Bool) (significand : Nat) (start : Int) : List Char → Read Json
  | '.' :: rest => fractionPart negative significand start rest
  | rest => exponentPart negative significand start rest

/-- The number of a literal without fraction and exponent. -/
def wholeNumber (negative : Bool) (significand : Nat) : Json :=
  if !negative then .int significand
  else if significand == 0 || 9223372036854775808 < significand then
    .float ((Binary64.ofRatio true significand 1).getD (Binary64.zero true))
  else .int (-(significand : Int))

/-- A number whose digits start here. -/
def number (negative : Bool) (cs : List Char) : Read Json :=
  match cs with
  | [] => none
  | c :: rest =>
    if !c.isDigit then none
    else
      let (n, _, after) := if c == '0' then (0, 1, rest) else gather 0 0 (c :: rest)
      match after with
      | d :: more =>
        if d.isDigit then
          if c == '0' then none
          else
            let extra := (d :: more).takeWhile Char.isDigit
            longPart negative n extra.length ((d :: more).dropWhile Char.isDigit)
        else if d == '.' || d == 'e' || d == 'E' then longPart negative n 0 after
        else some (wholeNumber negative n, after)
      | [] => some (wholeNumber negative n, [])

/-! ## Values -/

/-- What follows an item of a container: a comma, and the next item, or the end. `item` reads one
item; `close` is the closing character. -/
def itemsTail {α : Type} (item : List Char → Read α) (close : Char) (cs : List Char) :
    Read (List α) :=
  match skip cs with
  | [] => none
  | c :: rest =>
    if c == close then some ([], rest)
    else if c == ',' then
      match item (skip rest) with
      | none => none
      | some (v, after) =>
        if _h : after.length < cs.length then
          match itemsTail item close after with
          | some (vs, rest) => some (v :: vs, rest)
          | none => none
        else none
    else none
  termination_by cs.length

/-- The items of a container after its opening character. -/
def items {α : Type} (item : List Char → Read α) (close : Char) (cs : List Char) : Read (List α) :=
  match skip cs with
  | [] => none
  | c :: rest =>
    if c == close then some ([], rest)
    else
      match item (c :: rest) with
      | none => none
      | some (v, after) =>
        match itemsTail item close after with
        | some (vs, rest) => some (v :: vs, rest)
        | none => none

/-- A member: a key, a colon and a value. -/
def member (value : List Char → Read Json) : List Char → Read (String × Json)
  | '"' :: cs =>
    match stringTail cs with
    | none => none
    | some (k, rest) =>
      match skip rest with
      | ':' :: rest =>
        match value (skip rest) with
        | some (v, rest) => some ((String.ofList k, v), rest)
        | none => none
      | _ => none
  | _ => none

/-- Reads a fixed word. -/
def word (w : List Char) (v : Json) (cs : List Char) : Read Json :=
  if w.isPrefixOf cs then some (v, cs.drop w.length) else none

/-- A value that starts here and has at most `levels` containers within each other. -/
def value (levels : Nat) (cs : List Char) : Read Json :=
  match cs with
  | 'n' :: _ => word ['n', 'u', 'l', 'l'] .null cs
  | 't' :: _ => word ['t', 'r', 'u', 'e'] (.bool true) cs
  | 'f' :: _ => word ['f', 'a', 'l', 's', 'e'] (.bool false) cs
  | '"' :: rest => (stringTail rest).map fun (s, rest) => (.str (String.ofList s), rest)
  | '-' :: rest => number true rest
  | '[' :: rest =>
    match levels with
    | 0 => none
    | n + 1 => (items (value n) ']' rest).map fun (vs, rest) => (.arr vs, rest)
  | '{' :: rest =>
    match levels with
    | 0 => none
    | n + 1 => (items (member (value n)) '}' rest).map fun (ms, rest) => (.obj ms, rest)
  | _ => number false cs

/-- The deepest nesting that is read. -/
def maxDepth : Nat := 127

/-- The value of a text, its objects as they stand. -/
def readRaw (cs : List Char) : Option Json :=
  match value maxDepth (skip cs) with
  | some (v, rest) => if (skip rest).isEmpty then some v else none
  | none => none

/-- The canonical value of a text. -/
def read (cs : List Char) : Option Json := (readRaw cs).map canonical

/-- The canonical value of a byte sequence, which has to be UTF-8. -/
def readBytes (bs : List UInt8) : Option Json :=
  match Utf8.decode bs with
  | .ok cs => read cs
  | .error _ => none

end RequestBinding.Json
