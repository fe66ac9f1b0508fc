import RequestBinding.Members
import RequestBinding.Number.Binary64

/-!
# JSON values

A JSON value with exact integers and finite doubles. The members of an object are a list of
pairs. A *canonical* value keeps the members of every object in strictly increasing order of their
keys; `Json.canonical` brings any value into that form, the last member of a key winning.

## Main definitions

* `Json` - values
* `Json.Canonical`, `Json.canonical` - key-sorted values
* `Json.depth` - nesting of containers
-/

namespace RequestBinding

/-- A JSON value. -/
inductive Json where
  | null
  | bool (b : Bool)
  | int (n : Int)
  | float (x : Binary64)
  | str (s : String)
  | arr (items : List Json)
  | obj (members : List (String × Json))
  deriving Repr, Inhabited

namespace Json

/-! ## Canonical values -/

mutual

/-- The members of every object within stand in strictly increasing order of their keys. -/
def Canonical : Json → Prop
  | .arr items => CanonicalItems items
  | .obj members => Members.Sorted members ∧ CanonicalMembers members
  | _ => True

/-- Every item is canonical. -/
def CanonicalItems : List Json → Prop
  | [] => True
  | v :: rest => Canonical v ∧ CanonicalItems rest

/-- Every member's value is canonical. -/
def CanonicalMembers : List (String × Json) → Prop
  | [] => True
  | (_, v) :: rest => Canonical v ∧ CanonicalMembers rest

end

mutual

/-- Sorts the members of every object by key; of several members with one key the last stays. -/
def canonical : Json → Json
  | .arr items => .arr (canonicalItems items)
  | .obj members => .obj (Members.ofList (canonicalMembers members))
  | v => v

/-- Brings every item into canonical form. -/
def canonicalItems : List Json → List Json
  | [] => []
  | v :: rest => canonical v :: canonicalItems rest

/-- Brings every member's value into canonical form and keeps the order. -/
def canonicalMembers : List (String × Json) → List (String × Json)
  | [] => []
  | (k, v) :: rest => (k, canonical v) :: canonicalMembers rest

end

/-! ## Nesting -/

mutual

/-- How many containers are nested in a value; scalars have depth zero. -/
def depth : Json → Nat
  | .arr items => depthItems items + 1
  | .obj members => depthMembers members + 1
  | _ => 0

/-- The greatest depth of a list of items. -/
def depthItems : List Json → Nat
  | [] => 0
  | v :: rest => max (depth v) (depthItems rest)

/-- The greatest depth of a list of members' values. -/
def depthMembers : List (String × Json) → Nat
  | [] => 0
  | (_, v) :: rest => max (depth v) (depthMembers rest)

end

/-! ## Access -/

/-- The text of a text value. -/
def str? : Json → Option String
  | .str s => some s
  | _ => none

/-- Whether a value is null. -/
def isNull : Json → Bool
  | .null => true
  | _ => false

/-- The least and the greatest integer of 64 bits with sign. -/
def int64Min : Int := -9223372036854775808
def int64Max : Int := 9223372036854775807

/-- The greatest integer of 64 bits without sign. -/
def uint64Max : Int := 18446744073709551615

/-- The integer of an integer value within 64 bits with sign. -/
def int64? : Json → Option Int
  | .int n => if int64Min ≤ n && n ≤ int64Max then some n else none
  | _ => none

/-- The kind of a value, with its article, as error messages name it. -/
def kind : Json → String
  | .null => "null"
  | .bool _ => "a boolean"
  | .int _ => "a number"
  | .float _ => "a number"
  | .str _ => "a string"
  | .arr _ => "an array"
  | .obj _ => "an object"

end Json

end RequestBinding
