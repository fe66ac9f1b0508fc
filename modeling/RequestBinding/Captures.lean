/-!
# Captured values

The values that a path gave to the placeholders of a route, in the order of the template. A key
that occurs twice keeps both values; looking it up gives the first one.

## Main definitions

* `Captures` - lists of keys and values
* `Captures.get?`, `Captures.push` - operations
-/

namespace RequestBinding

/-- Captured values with their keys, in order. -/
structure Captures where
  pairs : List (String × String)
  deriving Repr, DecidableEq

namespace Captures

/-- No captured values. -/
def empty : Captures := ⟨[]⟩

/-- Adds a value at the end. -/
def push (c : Captures) (key value : String) : Captures := ⟨c.pairs ++ [(key, value)]⟩

/-- The first value under a key. -/
def get? (c : Captures) (key : String) : Option String :=
  (c.pairs.find? (·.1 == key)).map (·.2)

/-- Whether there is a value under a key. -/
def contains (c : Captures) (key : String) : Bool := c.pairs.any (·.1 == key)

/-- The keys in order. -/
def keys (c : Captures) : List String := c.pairs.map (·.1)

/-- The number of values. -/
def size (c : Captures) : Nat := c.pairs.length

end Captures

end RequestBinding
