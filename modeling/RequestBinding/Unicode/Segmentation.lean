import RequestBinding.Unicode.Property
import RequestBinding.Unicode.Script

/-!
# Classes for the segmentation of texts

The classes of characters by which texts are divided into graphemes, words and sentences. They
are defined from properties, as Unicode 16.0 does it, and have names in patterns.

## Main definitions

* `graphemeClass?` - classes for the division into graphemes
* `wordClass?` - classes for the division into words
* `sentenceClass?` - classes for the division into sentences
-/

namespace RequestBinding.Unicode

namespace Segmentation

/-! ## Shared sets -/

/-- The skin tones. -/
def modifiers : Property := .listed "1F3FB-1F3FF"

/-- What extends a grapheme. -/
def extend : Property := .union .graphemeExtend modifiers

/-- Marks and what extends a grapheme. -/
def marks : Property := .union .graphemeExtend (.categories [.mc])

/-- Letters of scripts whose words are found by a dictionary. -/
def dictionaryLetters : Property :=
  .listed ("E01-E3A E40-E4E E81-E82 E84 E86-E8A E8C-EA3 EA5 EA7-EBD EC0-EC4 EC6 EC8-ECE EDC-EDF " ++
    "1000-103F 1050-108F 109A-109F 1780-17D3 17D7 17DC-17DD 1950-196D 1970-1974 1980-19AB " ++
    "19B0-19C9 19DA 19DE-19DF 1A20-1A5E 1A60-1A7C 1AA0-1AAD A9E0-A9EF A9FA-A9FE AA60-AAC2 " ++
    "AADB-AADF 11700-1171A 1171D-1172B 1173A-1173B 1173F-11746")

/-- The signs before numbers, but for the one that is a letter. -/
def numberSigns : Property := .diff .prependedMarks (.listed "70F")

/-- Digits and the signs of numbers. -/
def numeric : Property := .union (.union (.categories [.nd]) (.listed "66B-66C")) numberSigns

/-- Georgian capitals, whose small letters are used alone. -/
def georgian : Property := .listed "10D0-10FA 10FD-10FF"

/-! ## Graphemes -/

/-- Marks that take a place of their own but belong to no grapheme before them. -/
def separateMarks : Property :=
  .listed ("102B-102C 1038 1062-1064 1067-106D 1083 1087-108C 108F 109A-109C 1A61 1A63-1A64 " ++
    "AA7B AA7D 11720-11721")

/-- The first syllables of rows of Hangul, which end in a vowel. -/
def openSyllables : List (Nat × Nat) :=
  (List.range 399).map fun k => (0xAC00 + 28 * k, 0xAC00 + 28 * k)

/-- The controls, unassigned ignorable characters among them. -/
def controls : Property :=
  let ignorable := Property.listed Listed.defaultIgnorable
  let unassigned := Property.diff ignorable (.diff ignorable (.categories [.cn]))
  .diff
    (.diff (.union (.categories [.zl, .zp, .cc, .cf]) unassigned) (.listed "A D 200C-200D"))
    (.union .prependedMarks extend)

end Segmentation

open Segmentation

/-- A class for the division into graphemes, by its name in small letters without separators. -/
def graphemeClass? (name : String) : Option RangeSet :=
  match name with
  | "control" | "cn" => some controls.toSet
  | "cr" => some (.range 13 13)
  | "extend" | "ex" => some extend.toSet
  | "l" => some (.ofText "1100-115F A960-A97C")
  | "lf" => some (.range 10 10)
  | "lv" => some (.ofAscending openSyllables)
  | "lvt" => some ((RangeSet.range 0xAC00 0xD7A3).diff (.ofAscending openSyllables))
  | "prepend" | "pp" =>
    some (.ofText ("600-605 6DD 70F 890-891 8E2 D4E 110BD 110CD 111C2-111C3 113D1 1193F 11941 " ++
      "11A3A 11A84-11A89 11D46 11F02"))
  | "regionalindicator" | "ri" => some (.range 0x1F1E6 0x1F1FF)
  | "spacingmark" | "sm" =>
    some (((categorySet [.mc]).diff extend.toSet |>.union (.ofText "E33 EB3")).diff
      separateMarks.toSet)
  | "t" => some (.ofText "11A8-11FF D7CB-D7FB")
  | "v" => some (.ofText "1160-11A7 D7B0-D7C6 16D63 16D67-16D6A")
  | "zwj" => some (.range 0x200D 0x200D)
  | _ => none

/-- Katakana letters and signs. -/
def Segmentation.katakana : RangeSet :=
  (scriptSet "Kana").union (.ofText "3031-3035 309B-309C 30A0 30FC FF70")

/-- Hebrew letters. -/
def Segmentation.hebrewLetters : RangeSet := (scriptSet "Hebr").inter (categorySet [.lo])

/-- Letters that form words. -/
def Segmentation.wordLetters : RangeSet :=
  let signs := RangeSet.ofText
    ("2C2-2C5 2D2-2D7 2DE-2DF 2E5-2EB 2ED 2EF-2FF 55A-55C 55E 58A 5F3 70F A708-A716 A720-A721 " ++
      "A789-A78A AB5B")
  let apart := RangeSet.unions
    [.ofText Listed.ideographic, katakana, dictionaryLetters.toSet, scriptSet "Hira", marks.toSet,
      hebrewLetters, modifiers.toSet]
  (Property.alphabetic.toSet.union signs).diff apart

/-- A class for the division into words, by its name in small letters without separators. -/
def wordClass? (name : String) : Option RangeSet :=
  match name with
  | "aletter" | "le" => some wordLetters
  | "cr" => some (.range 13 13)
  | "doublequote" | "dq" => some (.range 0x22 0x22)
  | "extend" => some (Property.union marks modifiers).toSet
  | "extendnumlet" | "ex" => some (Property.union (.categories [.pc]) (.listed "202F")).toSet
  | "format" | "fo" =>
    some (Property.diff (.categories [.cf])
      (.union (.listed "200B-200D") (.union .prependedMarks (.union marks modifiers)))).toSet
  | "hebrewletter" | "hl" => some hebrewLetters
  | "katakana" | "ka" => some katakana
  | "lf" => some (.range 10 10)
  | "midletter" | "ml" => some (.ofText "3A B7 387 55F 5F4 2027 FE13 FE55 FF1A")
  | "midnum" | "mn" =>
    some (.ofText "2C 3B 37E 589 60C-60D 66C 7F8 2044 FE10 FE14 FE50 FE54 FF0C FF1B")
  | "midnumlet" | "mb" => some (.ofText "2E 2018-2019 2024 FE52 FF07 FF0E")
  | "newline" | "nl" => some (.ofText "B-C 85 2028-2029")
  | "numeric" | "nu" => some (Property.diff numeric (.listed "66C")).toSet
  | "regionalindicator" | "ri" => some (.range 0x1F1E6 0x1F1FF)
  | "singlequote" | "sq" => some (.range 0x27 0x27)
  | "wsegspace" => some (.ofText "20 1680 2000-2006 2008-200A 205F 3000")
  | "zwj" => some (.range 0x200D 0x200D)
  | _ => none

/-- Characters after which a sentence may end without ending for sure. -/
def Segmentation.doubtfulEnds : Property := .listed "2E 2024 FE52 FF0E"

/-- Lowercase characters that show that a sentence goes on. -/
def Segmentation.sentenceLower : Property :=
  .diff (.diff .lowercase .graphemeExtend) georgian

/-- Uppercase and titlecase characters but for Georgian capitals. -/
def Segmentation.sentenceUpper : Property :=
  .diff (.union (.categories [.lt]) .uppercase) (.listed "1C90-1CBA 1CBD-1CBF")

/-- A class for the division into sentences, by its name in small letters without separators. -/
def sentenceClass? (name : String) : Option RangeSet :=
  let ends := Property.diff (.listed Listed.sentenceTerminal) doubtfulEnds
  match name with
  | "aterm" | "at" => some doubtfulEnds.toSet
  | "close" | "cl" =>
    some (Property.diff
      (.union (.categories [.ps, .pe, .pi, .pf])
        (.listed "22 27 275B-2760 2E00-2E01 2E06-2E08 2E0B 1F676-1F678"))
      (.union doubtfulEnds ends)).toSet
  | "cr" => some (.range 13 13)
  | "extend" | "ex" => some (Property.union marks (.listed "200D")).toSet
  | "format" | "fo" =>
    some (Property.diff (.categories [.cf])
      (.union (.listed "200C-200D") (.union .prependedMarks marks))).toSet
  | "lf" => some (.range 10 10)
  | "lower" | "lo" => some sentenceLower.toSet
  | "numeric" | "nu" => some numeric.toSet
  | "oletter" | "le" =>
    some (Property.diff (.union .alphabetic (.listed "5F3 70F"))
      (.union (.union sentenceLower sentenceUpper) marks)).toSet
  | "scontinue" | "sc" =>
    some (.ofText ("2C-2D 3A-3B 37E 55D 60C-60D 7F8 1802 1808 2013-2014 3001 FE10-FE11 " ++
      "FE13-FE14 FE31-FE32 FE50-FE51 FE54-FE55 FE58 FE63 FF0C-FF0D FF1A-FF1B FF64"))
  | "sep" | "se" => some (.ofText "85 2028-2029")
  | "sp" => some (.ofText "9 B-C 20 A0 1680 2000-200A 202F 205F 3000")
  | "sterm" | "st" => some ends.toSet
  | "upper" | "up" => some sentenceUpper.toSet
  | _ => none

end RequestBinding.Unicode
