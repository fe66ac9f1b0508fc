import RequestBinding.Unicode.Segmentation

/-!
# Queries for properties of characters

A set of characters can be asked for by the name of a property, of a general category or of a
script, or by a name and a value such as `gc=Lu`, `script:Greek` or `age!=6.0`. Names are loose:
the case of letters, blanks, hyphens and underscores do not count, nor does `is` at the start.

## Main definitions

* `looseName` - a name without what does not count
* `queriedSet?` - the set that a query asks for
-/

namespace RequestBinding.Regex

open RequestBinding.Unicode

/-- The characters of a name that count: ASCII characters other than blanks, hyphens and
underscores, in lower case. -/
def countedChars (cs : List Char) : List Char :=
  (cs.filter fun c => c.toNat < 128 && c != ' ' && c != '-' && c != '_').map Char.toLower

/-- What counts of a name. The name of the comment property, `isc`, begins with `is` itself. -/
def looseName (cs : List Char) : String :=
  match cs with
  | a :: b :: rest =>
    if a.toLower == 'i' && b.toLower == 's' then
      let name := countedChars rest
      String.ofList (if name == ['c'] then ['i', 's', 'c'] else name)
    else String.ofList (countedChars cs)
  | cs => String.ofList (countedChars cs)

/-- The set of general categories that a name stands for. -/
def categoryQuery? (name : String) : Option RangeSet :=
  match name with
  | "any" => some .all
  | "ascii" => some (.range 0 0x7F)
  | "assigned" => some (categorySet [.cn]).compl
  | name => (Category.named? name).map (categorySet)

/-- The set of the characters of a script by its name. -/
def scriptQuery? (name : String) : Option RangeSet := (scriptCode? name).map scriptSet

/-- The set that a single name stands for. Three names of properties without a set of characters
stand for general categories. -/
def namedSet? (name : String) : Option RangeSet :=
  match Property.named? name with
  | some p => some p.toSet
  | none =>
    match categoryQuery? name with
    | some s => some s
    | none => scriptQuery? name

/-- The set that a name with a value stands for. -/
def valuedSet? (name value : String) : Option RangeSet :=
  match name with
  | "gc" | "generalcategory" => categoryQuery? value
  | "sc" | "script" => scriptQuery? value
  | "scx" | "scriptextensions" => (scriptCode? value).map scriptExtensionSet
  | "age" => ageSet? value
  | "gcb" | "graphemeclusterbreak" => graphemeClass? value
  | "wb" | "wordbreak" => wordClass? value
  | "sb" | "sentencebreak" => sentenceClass? value
  | _ => none

/-- Splits a query at the first place where `mark` stands. -/
def splitAtMark? (mark : List Char) : List Char → Option (List Char × List Char)
  | [] => none
  | c :: rest =>
    if mark.isPrefixOf (c :: rest) then some ([], (c :: rest).drop mark.length)
    else (splitAtMark? mark rest).map fun (name, value) => (c :: name, value)

/-- The set that a query in braces asks for, and whether its complement is meant. The mark `!=`
counts before a colon, and a colon before an equals sign. -/
def queriedSet? (query : List Char) : Option (RangeSet × Bool) :=
  let valued := fun (parts : List Char × List Char) (negated : Bool) =>
    (valuedSet? (looseName parts.1) (looseName parts.2)).map (·, negated)
  match splitAtMark? ['!', '='] query with
  | some parts => valued parts true
  | none =>
    match splitAtMark? [':'] query with
    | some parts => valued parts false
    | none =>
      match splitAtMark? ['='] query with
      | some parts => valued parts false
      | none => (namedSet? (looseName query)).map (·, false)

end RequestBinding.Regex
