import RequestBinding.Regex.Footprint
import RequestBinding.Regex.Stops
import RequestBinding.Regex.Syntax

/-!
# Patterns that can be matched

A pattern can be matched if it is well-formed and its expression is small enough.

## Main definitions

* `Regex.ofPattern?` - the expression of a pattern that can be matched
-/

namespace RequestBinding.Regex

/-- The expression of a pattern, if the pattern is well-formed and neither too deep nor too large.
-/
def ofPattern? (pattern : List Char) : Option Regex := (read? pattern).filter fits

end RequestBinding.Regex
