import RequestBinding.Unicode.CaseTable
import RequestBinding.Unicode.Category
import RequestBinding.Unicode.Property.Tables

/-!
# Properties of characters

The properties of characters that have a name in patterns, as Unicode 16.0 defines them: from the
general categories, from the case mappings, and from lists of characters.

## Main definitions

* `Property` - definitions of sets of characters
* `Property.toSet` - the characters of a property
* `Property.named?` - the property that a name stands for
* `wordSet`, `digitSet`, `blankSet` - the sets of `\w`, `\d` and `\s`
-/

namespace RequestBinding.Unicode

/-- A definition of a set of characters. -/
inductive Property where
  /-- The characters that a text lists. -/
  | listed (ranges : String)
  /-- The characters of some general categories. -/
  | categories (ks : List Category)
  /-- The characters that came with version 17.0. -/
  | later
  /-- The characters that the lowercase mapping changes. -/
  | lowered
  /-- The characters that the uppercase mapping changes. -/
  | raised
  | union (p q : Property)
  | diff (p q : Property)
  deriving Repr, DecidableEq

namespace Property

/-- The characters of a property. -/
def toSet : Property → RangeSet
  | listed ranges => .ofText ranges
  | categories ks => categorySet ks
  | later => laterSet
  | lowered => (RangeSet.ofPoints (0x130 :: lowerShifts.flatMap Shift.points)).diff laterSet
  | raised =>
    let points := upperShifts.flatMap Shift.points ++ upperExpansions.map Prod.fst
    ((RangeSet.ofPoints points).diff laterSet).diff (.ofText "A7D3 A7D5")
  | union p q => p.toSet.union q.toSet
  | diff p q => p.toSet.diff q.toSet

/-! ## Letters and case -/

/-- The alphabetic characters. -/
def alphabetic : Property :=
  .union (.categories (.nl :: Category.letters)) (.diff (.listed Listed.otherAlphabetic) .later)

/-- The lowercase characters. -/
def lowercase : Property :=
  .union (.categories [.ll]) (.diff (.listed Listed.otherLowercase) .later)

/-- The uppercase characters. -/
def uppercase : Property :=
  .union (.categories [.lu]) (.diff (.listed Listed.otherUppercase) .later)

/-- The characters that carry case. -/
def cased : Property := .union (.union lowercase uppercase) (.categories [.lt])

/-- The characters that are passed over when the end of a word is looked for. -/
def caseIgnorable : Property :=
  .union (.categories [.mn, .me, .cf, .lm, .sk])
    (.listed ("27 2E 3A B7 387 55F 5F4 2018-2019 2024 2027 FE13 FE52 FE55 FF07 FF0E FF1A"))

/-- The characters that the titlecase mapping changes. -/
def titled : Property :=
  .union
    (.diff .raised
      (.listed ("1C5 1C8 1CB 1F2 10D0-10FA 10FD-10FF 1F88-1F8F 1F98-1F9F 1FA8-1FAF 1FBC " ++
        "1FCC 1FFC")))
    (.listed "1C4 1C7 1CA 1F1")

/-- The characters that case folding changes. -/
def folded : Property :=
  .union (.diff .lowered (.listed "13A0-13F5"))
    (.listed ("B5 DF 149 17F 345 3C2 3D0-3D1 3D5-3D6 3F0-3F1 3F5 587 13F8-13FD 1C80-1C88 " ++
      "1E9A-1E9B 1F80-1F87 1F90-1F97 1FA0-1FA7 1FB2-1FB4 1FB7 1FC2-1FC4 1FC7 1FF2-1FF4 1FF7 " ++
      "AB70-ABBF FB00-FB06 FB13-FB17"))

/-! ## Identifiers -/

/-- Characters that may start identifiers besides letters. -/
def otherIdStart : Property := .listed "1885-1886 2118 212E 309B-309C"

/-- Characters that may continue identifiers besides letters, marks, digits and connectors. -/
def otherIdContinue : Property := .listed "B7 387 1369-1371 19DA 200C-200D 30FB FF65"

/-- The characters that patterns keep for their syntax. -/
def patternReserved : Property :=
  .union (.listed Listed.patternSyntax) (.listed "9-D 20 85 200E-200F 2028-2029")

/-- The characters that may start identifiers. -/
def idStart : Property :=
  .diff (.union (.categories (.nl :: Category.letters)) otherIdStart) patternReserved

/-- The characters that may continue identifiers. -/
def idContinue : Property :=
  .diff (.union idStart (.union (.categories [.mn, .mc, .nd, .pc]) otherIdContinue)) patternReserved

/-- The characters that may start identifiers under every normalization. -/
def xidStart : Property :=
  .diff idStart
    (.listed ("37A E33 EB3 309B-309C FC5E-FC63 FDFA-FDFB FE70 FE72 FE74 FE76 FE78 FE7A FE7C " ++
      "FE7E FF9E-FF9F"))

/-- The characters that may continue identifiers under every normalization. -/
def xidContinue : Property :=
  .diff idContinue
    (.listed "37A 309B-309C FC5E-FC63 FDFA-FDFB FE70 FE72 FE74 FE76 FE78 FE7A FE7C FE7E")

/-! ## Parts of graphemes -/

/-- The characters that extend what they follow. -/
def graphemeExtend : Property :=
  .union (.categories [.mn, .me]) (.listed Listed.otherGraphemeExtend)

/-- The characters that can stand at the base of a grapheme. -/
def graphemeBase : Property :=
  .diff
    (.categories (.zs :: (Category.letters ++ Category.marks ++ Category.numbers ++
      Category.punctuation ++ Category.symbols)))
    graphemeExtend

/-- Signs that stand before the number they belong to. -/
def prependedMarks : Property := .listed "600-605 6DD 70F 890-891 8E2 110BD 110CD"

/-! ## Names -/

/-- The characters of words: alphabetic characters, marks, decimal digits, connectors and the two
join controls. -/
def word : Property :=
  .union (.union alphabetic (.categories (.nd :: .pc :: Category.marks))) (.listed "200C-200D")

/-- The property that a name stands for, given in small letters without separators. -/
def named? : String → Option Property
  | "alphabetic" | "alpha" => some alphabetic
  | "asciihexdigit" | "ahex" => some (.listed "30-39 41-46 61-66")
  | "bidicontrol" | "bidic" => some (.listed "61C 200E-200F 202A-202E 2066-2069")
  | "bidimirrored" | "bidim" => some (.listed Listed.bidiMirrored)
  | "cased" => some cased
  | "caseignorable" | "ci" => some caseIgnorable
  | "changeswhencasefolded" | "cwcf" => some folded
  | "changeswhencasemapped" | "cwcm" => some (.union (.union .lowered .raised) titled)
  | "changeswhenlowercased" | "cwl" => some .lowered
  | "changeswhentitlecased" | "cwt" => some titled
  | "changeswhenuppercased" | "cwu" => some .raised
  | "dash" => some (.listed Listed.dash)
  | "defaultignorablecodepoint" | "di" => some (.listed Listed.defaultIgnorable)
  | "deprecated" | "dep" => some (.listed Listed.deprecated)
  | "diacritic" | "dia" => some (.listed Listed.diacritic)
  | "emoji" => some (.listed Listed.emoji)
  | "emojicomponent" | "ecomp" =>
    some (.listed ("23 2A 30-39 200D 20E3 FE0F 1F1E6-1F1FF 1F3FB-1F3FF 1F9B0-1F9B3 E0020-E007F"))
  | "emojimodifier" | "emod" => some (.listed "1F3FB-1F3FF")
  | "emojimodifierbase" | "ebase" => some (.listed Listed.emojiModifierBase)
  | "emojipresentation" | "epres" => some (.listed Listed.emojiPresentation)
  | "extendedpictographic" | "extpict" => some (.listed Listed.extendedPictographic)
  | "extender" | "ext" => some (.listed Listed.extender)
  | "graphemebase" | "grbase" => some graphemeBase
  | "graphemeextend" | "grext" => some graphemeExtend
  | "graphemelink" | "grlink" => some (.listed Listed.graphemeLink)
  | "hexdigit" | "hex" => some (.listed "30-39 41-46 61-66 FF10-FF19 FF21-FF26 FF41-FF46")
  | "hyphen" => some (.listed "2D AD 58A 1806 2010-2011 2E17 30FB FE63 FF0D FF65")
  | "idcompatmathcontinue" =>
    some (.listed ("B2-B3 B9 2070 2074-207E 2080-208E 2202 2207 221E 1D6C1 1D6DB 1D6FB 1D715 " ++
      "1D735 1D74F 1D76F 1D789 1D7A9 1D7C3"))
  | "idcompatmathstart" =>
    some (.listed ("2202 2207 221E 1D6C1 1D6DB 1D6FB 1D715 1D735 1D74F 1D76F 1D789 1D7A9 1D7C3"))
  | "idcontinue" | "idc" => some idContinue
  | "ideographic" | "ideo" => some (.listed Listed.ideographic)
  | "idstart" | "ids" => some idStart
  | "idsbinaryoperator" | "idsb" => some (.listed "2FF0-2FF1 2FF4-2FFD 31EF")
  | "idstrinaryoperator" | "idst" => some (.listed "2FF2-2FF3")
  | "idsunaryoperator" | "idsu" => some (.listed "2FFE-2FFF")
  | "joincontrol" | "joinc" => some (.listed "200C-200D")
  | "logicalorderexception" | "loe" =>
    some (.listed "E40-E44 EC0-EC4 19B5-19B7 19BA AAB5-AAB6 AAB9 AABB-AABC")
  | "lowercase" | "lower" => some lowercase
  | "math" => some (.union (.categories [.sm]) (.listed Listed.otherMath))
  | "modifiercombiningmark" | "mcm" =>
    some (.listed "654-655 658 6DC 6E3 6E7-6E8 8CA-8CB 8CD-8CF 8D3 8F3")
  | "noncharactercodepoint" | "nchar" =>
    some (.listed ("FDD0-FDEF FFFE-FFFF 1FFFE-1FFFF 2FFFE-2FFFF 3FFFE-3FFFF 4FFFE-4FFFF " ++
      "5FFFE-5FFFF 6FFFE-6FFFF 7FFFE-7FFFF 8FFFE-8FFFF 9FFFE-9FFFF AFFFE-AFFFF BFFFE-BFFFF " ++
      "CFFFE-CFFFF DFFFE-DFFFF EFFFE-EFFFF FFFFE-FFFFF 10FFFE-10FFFF"))
  | "otheralphabetic" | "oalpha" => some (.diff (.listed Listed.otherAlphabetic) .later)
  | "otherdefaultignorablecodepoint" | "odi" =>
    some (.listed ("34F 115F-1160 17B4-17B5 2065 3164 FFA0 FFF0-FFF8 E0000 E0002-E001F " ++
      "E0080-E00FF E01F0-E0FFF"))
  | "othergraphemeextend" | "ogrext" => some (.listed Listed.otherGraphemeExtend)
  | "otheridcontinue" | "oidc" => some otherIdContinue
  | "otheridstart" | "oids" => some otherIdStart
  | "otherlowercase" | "olower" => some (.diff (.listed Listed.otherLowercase) .later)
  | "othermath" | "omath" => some (.listed Listed.otherMath)
  | "otheruppercase" | "oupper" => some (.diff (.listed Listed.otherUppercase) .later)
  | "patternsyntax" | "patsyn" => some (.listed Listed.patternSyntax)
  | "patternwhitespace" | "patws" => some (.listed "9-D 20 85 200E-200F 2028-2029")
  | "prependedconcatenationmark" | "pcm" => some prependedMarks
  | "quotationmark" | "qmark" => some (.listed Listed.quotationMark)
  | "radical" => some (.listed "2E80-2E99 2E9B-2EF3 2F00-2FD5")
  | "regionalindicator" | "ri" => some (.listed "1F1E6-1F1FF")
  | "sentenceterminal" | "sterm" => some (.listed Listed.sentenceTerminal)
  | "softdotted" | "sd" => some (.listed Listed.softDotted)
  | "terminalpunctuation" | "term" => some (.listed Listed.terminalPunctuation)
  | "unifiedideograph" | "uideo" => some (.listed Listed.unifiedIdeograph)
  | "uppercase" | "upper" => some uppercase
  | "variationselector" | "vs" => some (.listed "180B-180D 180F FE00-FE0F E0100-E01EF")
  | "whitespace" | "wspace" | "space" =>
    some (.listed "9-D 20 85 A0 1680 2000-200A 2028-2029 202F 205F 3000")
  | "xidcontinue" | "xidc" => some xidContinue
  | "xidstart" | "xids" => some xidStart
  | _ => none

end Property

/-- The characters of words. -/
def wordSet : RangeSet := Property.word.toSet

/-- The decimal digits of all scripts. -/
def digitSet : RangeSet := categorySet [.nd]

/-- The blanks. -/
def blankSet : RangeSet := .ofText "9-D 20 85 A0 1680 2000-200A 2028-2029 202F 205F 3000"

end RequestBinding.Unicode
