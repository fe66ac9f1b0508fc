import RequestBinding.Text.Percent

/-!
# Form encoding

Pairs of texts written as `key=value` and joined by `&`, as in query strings and form bodies. A
plus sign stands for a space and percent escapes for bytes. Empty pieces are skipped, and a piece
without `=` is a key with the empty value.

## Main definitions

* `pairs` - the pairs of an encoded byte sequence
* `render` - an encoded text with given pairs
-/

namespace RequestBinding.Form

/-- Splits a list at every element equal to `sep`; there is always at least one piece. -/
def splitAll [BEq α] (sep : α) : List α → List (List α)
  | [] => [[]]
  | x :: rest =>
    if x == sep then [] :: splitAll sep rest
    else
      match splitAll sep rest with
      | piece :: more => (x :: piece) :: more
      | [] => [[x]]

/-- Splits a list at its first element equal to `sep`, which belongs to neither part. -/
def splitFirst [BEq α] (sep : α) : List α → List α × List α
  | [] => ([], [])
  | x :: rest =>
    if x == sep then ([], rest)
    else ((x :: (splitFirst sep rest).1), (splitFirst sep rest).2)

/-- The text of a key or value: plus signs are spaces, escapes are bytes, and malformed UTF-8 is
replaced. -/
def text (bs : List UInt8) : String :=
  String.ofList (Utf8.decodeLossy (Percent.decode (bs.map fun b => if b == 0x2B then 0x20 else b)))

/-- The pairs of an encoded byte sequence. -/
def pairs (bs : List UInt8) : List (String × String) :=
  ((splitAll 0x26 bs).filter (!·.isEmpty)).map fun piece =>
    let (key, value) := splitFirst 0x3D piece
    (text key, text value)

/-- A key or value in encoded form: unreserved bytes as they are, all others escaped. -/
def encode (s : String) : String := Percent.encode s

/-- The encoded form of a list of pairs. -/
def render (ps : List (String × String)) : String :=
  String.ofList (List.intercalate ['&'] (ps.map fun p => (encode p.1 ++ "=" ++ encode p.2).toList))

end RequestBinding.Form
