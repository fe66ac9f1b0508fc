/-!
# Fields

A field of a resource, such as the branch of a request. Its qualified name joins the resource and
the name by a dot.

## Main definitions

* `Field` - fields
* `Field.qualified` - the qualified name
-/

namespace RequestBinding

/-- A field of a resource. -/
structure Field where
  owner : String
  name : String
  deriving Repr, DecidableEq

/-- The name of a field together with its resource. -/
def Field.qualified (f : Field) : String := f.owner ++ "." ++ f.name

end RequestBinding
