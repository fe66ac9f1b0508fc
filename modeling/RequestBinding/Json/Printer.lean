import RequestBinding.Json.Basic
import RequestBinding.Number.Shortest

/-!
# Compact JSON text

The text of a value has no blanks. Strings escape only the quotation mark, the backslash and the
characters below U+0020: five of those have a short escape, the others the form `\u00xx` in lower
case.

## Main definitions

* `Json.render` - the text of a value
* `Json.quote` - the text of a string
-/

namespace RequestBinding.Json

/-- The lowercase hexadecimal digit of a number below sixteen. -/
def hexDigit (n : Nat) : Char :=
  if n < 10 then Char.ofNat (0x30 + n) else Char.ofNat (0x61 + (n - 10))

/-- One character as it stands within a string. -/
def escapeChar (c : Char) : List Char :=
  if c == '"' then ['\\', '"']
  else if c == '\\' then ['\\', '\\']
  else if c == '\n' then ['\\', 'n']
  else if c == '\r' then ['\\', 'r']
  else if c == '\t' then ['\\', 't']
  else if c == Char.ofNat 8 then ['\\', 'b']
  else if c == Char.ofNat 12 then ['\\', 'f']
  else if c.toNat < 0x20 then
    ['\\', 'u', '0', '0', hexDigit (c.toNat / 16), hexDigit (c.toNat % 16)]
  else [c]

/-- The text of a string, given its characters. -/
def quoteChars (cs : List Char) : List Char := '"' :: (cs.flatMap escapeChar ++ ['"'])

/-- The decimal text of an integer. -/
def intChars (n : Int) : List Char :=
  if n < 0 then '-' :: Nat.toDigits 10 n.natAbs else Nat.toDigits 10 n.natAbs

mutual

/-- The characters of a value's text. -/
def renderChars : Json → List Char
  | .null => ['n', 'u', 'l', 'l']
  | .bool true => ['t', 'r', 'u', 'e']
  | .bool false => ['f', 'a', 'l', 's', 'e']
  | .int n => intChars n
  | .float x => x.renderChars
  | .str s => quoteChars s.toList
  | .arr [] => ['[', ']']
  | .arr (v :: rest) => '[' :: (renderChars v ++ renderItems rest)
  | .obj [] => ['{', '}']
  | .obj ((k, v) :: rest) => '{' :: (quoteChars k.toList ++ ':' :: (renderChars v ++ renderMembers rest))

/-- The items after the first one, and the closing bracket. -/
def renderItems : List Json → List Char
  | [] => [']']
  | v :: rest => ',' :: (renderChars v ++ renderItems rest)

/-- The members after the first one, and the closing brace. -/
def renderMembers : List (String × Json) → List Char
  | [] => ['}']
  | (k, v) :: rest => ',' :: (quoteChars k.toList ++ ':' :: (renderChars v ++ renderMembers rest))

end

/-- The text of a value. -/
def render (v : Json) : String := String.ofList v.renderChars

/-- The text of a string. -/
def quote (s : String) : String := String.ofList (quoteChars s.toList)

end RequestBinding.Json
