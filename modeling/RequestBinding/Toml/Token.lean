import RequestBinding.Number.Decimal

/-!
# Numbers and times in TOML

Numbers, dates and times are written without quotation marks. What follows decides whether a run of
characters is one of them; their values are of no concern.

## Main definitions

* `Toml.isInteger`, `Toml.isFloat` - numbers
* `Toml.isDateTime` - dates and times
-/

namespace RequestBinding.Toml

/-! ## Numbers -/

/-- Digits in groups with single underscores between them. -/
def isGrouped (digit : Char → Bool) : List Char → Bool
  | [] => false
  | [c] => digit c
  | c :: '_' :: rest => digit c && isGrouped digit rest
  | c :: rest => digit c && isGrouped digit rest

/-- The value of a digit of any base up to sixteen. -/
def digitValue (c : Char) : Nat :=
  if c.isDigit then c.toNat - '0'.toNat else c.toLower.toNat - 'a'.toNat + 10

/-- The value of digits in a base, underscores aside. -/
def valueIn (base : Nat) (cs : List Char) : Nat :=
  (cs.filter (· != '_')).foldl (fun n c => n * base + digitValue c) 0

/-- A text without its sign, and whether that was a minus sign. -/
def unsigned : List Char → Bool × List Char
  | '+' :: cs => (false, cs)
  | '-' :: cs => (true, cs)
  | cs => (false, cs)

/-- Decimal digits that do not begin with a needless zero. -/
def isWhole (cs : List Char) : Bool :=
  isGrouped Char.isDigit cs && (cs.head? != some '0' || cs.length == 1)

/-- Digits of a base other than ten, whose value fits 63 bits. -/
def isBased (base : Nat) (digit : Char → Bool) (cs : List Char) : Bool :=
  isGrouped digit cs && valueIn base cs < Nat.pow 2 63

/-- Whether a text is a hexadecimal digit. -/
def isHex (c : Char) : Bool := c.isDigit || ('a' ≤ c && c ≤ 'f') || ('A' ≤ c && c ≤ 'F')

/-- Whether a text is an integer of 64 bits. -/
def isInteger (cs : List Char) : Bool :=
  match cs with
  | '0' :: 'x' :: ds => isBased 16 isHex ds
  | '0' :: 'o' :: ds => isBased 8 (fun c => '0' ≤ c && c ≤ '7') ds
  | '0' :: 'b' :: ds => isBased 2 (fun c => c == '0' || c == '1') ds
  | cs =>
    let (negative, ds) := unsigned cs
    isWhole ds && valueIn 10 ds < Nat.pow 2 63 + (if negative then 1 else 0)

/-- Whether a text is an exponent. -/
def isExponent : List Char → Bool
  | e :: rest => (e == 'e' || e == 'E') && isGrouped Char.isDigit (unsigned rest).2
  | [] => false

/-- The value of an exponent; no exponent counts as zero. -/
def exponentValue : List Char → Int
  | [] => 0
  | _ :: rest =>
    let (negative, ds) := unsigned rest
    if negative then -(valueIn 10 ds : Int) else valueIn 10 ds

/-- Whether `digits * 10 ^ exponent` is so large that the nearest double is infinity, the digits
being given as a text of them. The bound lies halfway between the largest finite double and the next
power of two. Numbers with fewer than 309 digits before the point are below it. -/
def isInfinite (digits : List Char) (exponent : Int) : Bool :=
  let ds := digits.dropWhile (· == '0')
  let places := ds.length + exponent
  let bound := Nat.pow 2 1024 - Nat.pow 2 970
  if ds.isEmpty || places < 309 then false
  else if 309 < places then true
  else if 0 ≤ exponent then bound ≤ valueIn 10 ds * Nat.pow 10 exponent.toNat
  else bound * Nat.pow 10 (-exponent).toNat ≤ valueIn 10 ds

/-- Whether a text is a number with a fraction, an exponent or both, or one of the names for
infinity and for no number. A number without a minus sign must not be so large that it becomes
infinite. -/
def isFloat (cs : List Char) : Bool :=
  let (negative, ds) := unsigned cs
  let inNumber := fun c : Char => c.isDigit || c == '_'
  let whole := ds.takeWhile inNumber
  let finite := fun (fraction exponent : List Char) =>
    let digits := (whole ++ fraction).filter Char.isDigit
    let places := (fraction.filter Char.isDigit).length
    negative || !isInfinite digits (exponentValue exponent - places)
  ds == ['i', 'n', 'f'] || ds == ['n', 'a', 'n'] ||
    (isWhole whole &&
      match ds.dropWhile inNumber with
      | '.' :: rest =>
        let fraction := rest.takeWhile inNumber
        let exponent := rest.dropWhile inNumber
        isGrouped Char.isDigit fraction && (exponent.isEmpty || isExponent exponent) &&
          finite fraction exponent
      | rest => isExponent rest && finite [] rest)

/-! ## Times -/

/-- The value of two digits. -/
def two (a b : Char) : Option Nat := digitsValue? [a, b]

/-- The number of days in a month. -/
def daysIn (year month : Nat) : Nat :=
  if month == 2 then
    if year % 4 == 0 && (year % 100 != 0 || year % 400 == 0) then 29 else 28
  else if [4, 6, 9, 11].contains month then 30
  else 31

/-- What follows a date; none if the text does not begin with one. -/
def afterDate? : List Char → Option (List Char)
  | a :: b :: c :: d :: '-' :: e :: f :: '-' :: g :: h :: rest => do
    let year ← digitsValue? [a, b, c, d]
    let month ← two e f
    let day ← two g h
    if 1 ≤ month && month ≤ 12 && 1 ≤ day && day ≤ daysIn year month then some rest else none
  | _ => none

/-- What follows a time of day; none if the text does not begin with one. -/
def afterTime? : List Char → Option (List Char)
  | a :: b :: ':' :: c :: d :: ':' :: e :: f :: rest => do
    let hour ← two a b
    let minute ← two c d
    let second ← two e f
    if hour < 24 && minute < 60 && second ≤ 60 then
      match rest with
      | '.' :: rest =>
        if rest.head?.any Char.isDigit then some (rest.dropWhile Char.isDigit) else none
      | rest => some rest
    else none
  | _ => none

/-- Whether a text is nothing or the distance of a time zone. -/
def isOffset : List Char → Bool
  | [] => true
  | ['Z'] | ['z'] => true
  | [sign, a, b, ':', c, d] =>
    (sign == '+' || sign == '-') && (two a b).any (· < 24) && (two c d).any (· < 60)
  | _ => false

/-- Whether a text is a date, a time of day, or both. -/
def isDateTime (cs : List Char) : Bool :=
  match afterDate? cs with
  | some [] => true
  | some (d :: rest) => (d == 'T' || d == 't' || d == ' ') && (afterTime? rest).any isOffset
  | none => afterTime? cs == some []

/-- The characters of numbers, dates and times. -/
def isTokenChar (c : Char) : Bool :=
  c.isAlphanum || c == '_' || c == '+' || c == '-' || c == '.' || c == ':'

/-- The number, date or time that a text begins with, and what follows. A blank may stand between
date and time. -/
def split (cs : List Char) : List Char × List Char :=
  let first := cs.takeWhile isTokenChar
  let rest := cs.dropWhile isTokenChar
  match afterDate? first, rest with
  | some [], ' ' :: more =>
    if more.head?.any Char.isDigit then
      (first ++ ' ' :: more.takeWhile isTokenChar, more.dropWhile isTokenChar)
    else (first, rest)
  | _, _ => (first, rest)

/-- What follows a number, date or time. -/
def afterToken? (cs : List Char) : Option (List Char) :=
  let (token, rest) := split cs
  if isInteger token || isFloat token || isDateTime token then some rest else none

end RequestBinding.Toml
