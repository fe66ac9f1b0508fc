/-!
# Whole numbers in decimal

## Main definitions

* `digitsValue?` - the value of a list of digits
* `unsignedValue?` - the value of digits after an optional plus sign
* `isDecimalNumber` - texts that denote a number with fraction and exponent
-/

namespace RequestBinding

/-- The value of a list of decimal digits; none if it is empty or has another character. -/
def digitsValue? (cs : List Char) : Option Nat :=
  if cs.isEmpty || !cs.all Char.isDigit then none
  else some (cs.foldl (fun n c => n * 10 + (c.toNat - '0'.toNat)) 0)

/-- The value of decimal digits that may follow a plus sign. -/
def unsignedValue? : List Char → Option Nat
  | '+' :: ds => digitsValue? ds
  | ds => digitsValue? ds

/-- Whether a text, without sign, is an exponent: empty, or an E with an optional sign and at least
one digit. -/
def isExponent : List Char → Bool
  | [] => true
  | e :: rest =>
    let ds :=
      match rest with
      | '+' :: ds => ds
      | '-' :: ds => ds
      | ds => ds
    (e == 'e' || e == 'E') && !ds.isEmpty && ds.all Char.isDigit

/-- Whether a text without sign denotes a number: digits with at most one point among them and at
least one digit, and an optional exponent; or infinity, or no number at all, by name. -/
def isDecimalNumber (cs : List Char) : Bool :=
  let whole := cs.takeWhile Char.isDigit
  let rest := cs.dropWhile Char.isDigit
  let name := String.ofList (cs.map Char.toLower)
  let plain :=
    match rest with
    | '.' :: rest =>
      (!whole.isEmpty || (rest.head?.any Char.isDigit)) && isExponent (rest.dropWhile Char.isDigit)
    | rest => !whole.isEmpty && isExponent rest
  plain || name == "inf" || name == "infinity" || name == "nan"

end RequestBinding
