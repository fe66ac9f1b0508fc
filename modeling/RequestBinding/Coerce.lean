import RequestBinding.Params.Basic
import RequestBinding.Text.Form

/-!
# Loose readings of values

How a value counts as a truth value, and as a list of names.

## Main definitions

* `Json.truthy` - truth values
* `Json.names` - lists of names
-/

namespace RequestBinding.Json

/-- Only no value, null, false and the text "false" count as false. -/
def truthy : Option Json → Bool
  | none => false
  | some .null => false
  | some (.bool b) => b
  | some (.str s) => s != "false"
  | some _ => true

/-- The parts of a text between commas that are not empty. -/
def commaNames (s : String) : List String :=
  ((Form.splitAll ',' s.toList).filter (!·.isEmpty)).map String.ofList

/-- The names that a value lists: those of a text, or of all texts in an array. -/
def names : Option Json → List String
  | some (.str s) => commaNames s
  | some (.arr items) => (items.filterMap str?).flatMap commaNames
  | _ => []

end RequestBinding.Json
