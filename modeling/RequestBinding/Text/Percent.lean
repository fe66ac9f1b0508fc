import RequestBinding.Text.Utf8

/-!
# Percent escapes

A percent sign and two hexadecimal digits stand for one byte. Reading keeps a percent sign that
does not start an escape.

## Main definitions

* `decode` - replaces every escape by its byte
* `encode` - the text whose unreserved bytes stand as they are and all others are escaped
* `decodeText` - a text decoded, or kept as it is if its decoding is not UTF-8
-/

namespace RequestBinding.Percent

/-- The value of a hexadecimal digit of either case. -/
def hexValue (b : UInt8) : Option Nat :=
  let n := b.toNat
  if 0x30 ≤ n && n ≤ 0x39 then some (n - 0x30)
  else if 0x41 ≤ n && n ≤ 0x46 then some (n - 0x41 + 10)
  else if 0x61 ≤ n && n ≤ 0x66 then some (n - 0x61 + 10)
  else none

/-- The byte that two hexadecimal digits stand for. -/
def escapeValue (high low : UInt8) : Option UInt8 :=
  match hexValue high, hexValue low with
  | some h, some l => some (UInt8.ofNat (16 * h + l))
  | _, _ => none

/-- Replaces every escape by its byte; other bytes stand for themselves. -/
def decode : List UInt8 → List UInt8
  | [] => []
  | [b] => [b]
  | [b, c] => [b, c]
  | b :: c :: d :: rest =>
    if b == 0x25 then
      match escapeValue c d with
      | some v => v :: decode rest
      | none => b :: decode (c :: d :: rest)
    else b :: decode (c :: d :: rest)

/-- The bytes that never need an escape: ASCII letters and digits, and `-`, `_`, `.`, `~`. -/
def isUnreserved (b : UInt8) : Bool :=
  let n := b.toNat
  (0x30 ≤ n && n ≤ 0x39) || (0x41 ≤ n && n ≤ 0x5A) || (0x61 ≤ n && n ≤ 0x7A) ||
    n == 0x2D || n == 0x5F || n == 0x2E || n == 0x7E

/-- The uppercase hexadecimal digit of a number below sixteen. -/
def hexDigit (n : Nat) : Char :=
  if n < 10 then Char.ofNat (0x30 + n) else Char.ofNat (0x41 + (n - 10))

/-- One byte as it stands in an encoded text. -/
def encodeByte (b : UInt8) : List Char :=
  if isUnreserved b then [Char.ofNat b.toNat]
  else ['%', hexDigit (b.toNat / 16), hexDigit (b.toNat % 16)]

/-- The encoding of a text, byte by byte. -/
def encode (s : String) : String := String.ofList ((Utf8.encode s).flatMap encodeByte)

/-- A text decoded; a text whose decoding is not UTF-8 is kept as it is. -/
def decodeText (s : String) : String :=
  match Utf8.decode (decode (Utf8.encode s)) with
  | .ok cs => String.ofList cs
  | .error _ => s

end RequestBinding.Percent
