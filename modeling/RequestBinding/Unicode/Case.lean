import RequestBinding.Unicode.CaseTable
import RequestBinding.Unicode.Category
import RequestBinding.Unicode.Property.Tables

/-!
# Classes and case of characters

The character classes that text formats refer to (blank, alphabetic, numeric), and upper and lower
case. Every class first decides the ASCII characters directly, so that no table is consulted for
them.

## Main definitions

* `isBlank`, `isAlphabetic`, `isNumeric`, `isAlphanumeric` - classes
* `lowercase`, `uppercase` - full case mappings of texts
-/

namespace RequestBinding.Unicode

/-! ## Classes -/

/-- The characters with the property White_Space. -/
def isBlank (c : Char) : Bool :=
  let n := c.toNat
  (9 ≤ n && n ≤ 13) || n == 0x20 || n == 0x85 || n == 0xA0 || n == 0x1680 ||
    (0x2000 ≤ n && n ≤ 0x200A) || n == 0x2028 || n == 0x2029 || n == 0x202F ||
    n == 0x205F || n == 0x3000

/-- The alphabetic characters that are neither letters nor letter numbers. -/
def alphabeticMarks : RangeSet := .ofText Listed.otherAlphabetic

/-- The characters with the property Alphabetic. -/
def isAlphabetic (c : Char) : Bool :=
  if c.toNat < 0x80 then c.isAlpha
  else
    let k := category c
    Category.letters.contains k || k == .nl || alphabeticMarks.mem c.toNat

/-- The characters of a number category. -/
def isNumeric (c : Char) : Bool :=
  if c.toNat < 0x80 then c.isDigit else Category.numbers.contains (category c)

/-- The alphabetic characters and the numbers. -/
def isAlphanumeric (c : Char) : Bool := isAlphabetic c || isNumeric c

/-! ## Case mappings -/

/-- The characters that carry case although they are no cased letters. -/
def caseSigns : RangeSet :=
  (RangeSet.ofText Listed.otherLowercase).union (.ofText Listed.otherUppercase)

/-- Characters that carry case. -/
def isCased (c : Char) : Bool :=
  if c.toNat < 0x80 then c.isAlpha
  else Category.casedLetters.contains (category c) || caseSigns.mem c.toNat

/-- Characters that are passed over when the end of a word is looked for. -/
def isCaseIgnorable (c : Char) : Bool :=
  [0x27, 0x2E, 0x3A, 0x5E, 0x60, 0xB7, 0x387, 0x55F, 0x5F4, 0x2018, 0x2019, 0x2024, 0x2027,
    0xFE13, 0xFE52, 0xFE55, 0xFF07, 0xFF0E, 0xFF1A].contains c.toNat ||
    (0x80 ≤ c.toNat &&
      match category c with
      | .mn | .me | .cf | .lm | .sk => true
      | _ => false)

/-- Whether the first character that is not passed over carries case. -/
def casedAhead (cs : List Char) : Bool :=
  match cs.dropWhile isCaseIgnorable with
  | c :: _ => isCased c
  | [] => false

/-- The lowercase form of one character that stands between the characters `before` (nearest
first) and `after`. A capital sigma at the end of a word has its own form, and the dotted
capital I keeps its dot. -/
def lowerAt (before : List Char) (c : Char) (after : List Char) : List Char :=
  if c.toNat < 0x80 then [c.toLower]
  else if c.toNat == 0x3A3 then
    if casedAhead before && !casedAhead after then [Char.ofNat 0x3C2] else [Char.ofNat 0x3C3]
  else if c.toNat == 0x130 then ['i', Char.ofNat 0x307]
  else [Char.ofNat (shiftBy lowerShifts c.toNat)]

/-- Lowercases the characters after `before`. -/
def lowerFrom (before : List Char) : List Char → List Char
  | [] => []
  | c :: rest => lowerAt before c rest ++ lowerFrom (c :: before) rest

/-- The lowercase form of a text. -/
def lowercase (s : String) : String := String.ofList (lowerFrom [] s.toList)

/-- The uppercase form of one character. -/
def upperOf (c : Char) : List Char :=
  if c.toNat < 0x80 then [c.toUpper]
  else
    match upperExpansions.find? (·.1 == c.toNat) with
    | some (_, ns) => ns.map Char.ofNat
    | none => [Char.ofNat (shiftBy upperShifts c.toNat)]

/-- The uppercase form of a text. -/
def uppercase (s : String) : String := String.ofList (s.toList.flatMap upperOf)

/-! ## Trimming -/

/-- Whether a text has nothing but blanks. -/
def blankText (s : String) : Bool := s.toList.all isBlank

/-- The characters of a text without the blanks at its start and end. -/
def trimBlank (cs : List Char) : List Char :=
  ((cs.dropWhile isBlank).reverse.dropWhile isBlank).reverse

end RequestBinding.Unicode
